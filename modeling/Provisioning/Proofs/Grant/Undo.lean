import Provisioning.Proofs.Grant.Gate
import Provisioning.Proofs.Grant.Order
import Provisioning.Proofs.Stored.Identifier

/-!
An applied batch can be undone.

What a batch does parts what was held into what is kept and what is taken away, and adds what was
not held (`GrantChanges.Parts`). So to take away what was added and to give what was taken away fits
what the batch leaves, keeps something if something was held before, and touches the same roles:
whoever was allowed to apply the batch may undo it (`Directory.undoes`).
-/

namespace Provisioning

/-- The name of a role, if it exists. -/
def Tenant.roleName (t : Tenant) (id : Uuid) : String := ((t.roles.get? id).map (·.name)).getD ""

/-- The changes that undo what was done: what was added is taken away, and what was taken away is
given again. Accounts are named by their identifiers. -/
def Tenant.undoing (t : Tenant) (done : GrantChanges) : List Change :=
  done.added.map (fun g => .removeOne g.account.toText (t.roleName g.role)) ++
    done.removed.map fun g => .add g.account.toText (t.roleName g.role)

/-- What is done now undoes what was done before: the same entitlements are held as then, and what is
taken away and what is added have changed places. -/
structure GrantChanges.Undoes (back done : GrantChanges) (before : List Grant) : Prop where
  grants : SameElements (back.grants.map Grant.entitlement) (before.map Grant.entitlement)
  added : (back.added.map Grant.entitlement).Perm (done.removed.map Grant.entitlement)
  removed : back.removed = done.added

/-- What was held is kept or taken away, and what is added was not held. -/
structure GrantChanges.Parts (done : GrantChanges) (before kept : List Grant) : Prop where
  grants : done.grants = kept ++ done.added
  perm : (kept ++ done.removed).Perm before
  fresh : ∀ e ∈ done.added.map Grant.entitlement, e ∉ before.map Grant.entitlement
  nodup_before : (before.map Grant.entitlement).Nodup
  nodup_grants : (done.grants.map Grant.entitlement).Nodup

/-- An account and a role that exist. -/
structure Tenant.Offers (t : Tenant) (e : Entitlement) : Prop where
  account : (t.accounts.get? e.account).isSome
  role : (t.roles.get? e.role).isSome

/-- A change of one entitlement, looked up. -/
def Tenant.single (t : Tenant) (op : ChangeOp) (e : Entitlement) : ResolvedChange :=
  ⟨⟨e.account.toText, .role (t.roleName e.role), op⟩, e.account, some (e.role, t.roleName e.role)⟩

/-! ### What a batch does -/

section Done

variable {t : Tenant} {current : List Grant} {changes : List Change}

lemma parts_outcomeOf (user : Uuid) {batch : List ResolvedChange}
    (hnodup : (current.map Grant.entitlement).Nodup)
    (hfits : ∀ r ∈ batch, r.Fits (current.map Grant.entitlement)) :
    (outcomeOf user current (byPriority batch)).Parts current
      (current.filter fun g => !takesAny batch g.entitlement) where
  grants := carryOut_byPriority hfits
  perm := by
    have hperm := List.filter_append_perm (fun g => !takesAny batch g.entitlement) current
    simpa [outcomeOf, takesAny_byPriority] using hperm
  fresh e he := by
    obtain ⟨r, hr, hgiven⟩ := mem_map_additions.mp he
    exact (hfits r (mem_byPriority.mp hr)).fresh hgiven
  nodup_before := hnodup
  nodup_grants := nodup_outcomeOf user hnodup hfits

lemma Tenant.isSome_get?_of_mem_resolveAll {r : ResolvedChange} (hr : r ∈ t.resolveAll changes) :
    (t.accounts.get? r.account).isSome := by
  have haccount := (resolve?_eq_some.mp (mem_resolveAll.mp hr).2).2.1
  unfold account? at haccount
  split at haccount
  next id _ =>
    obtain ⟨a, ha, hid⟩ := Option.map_eq_some_iff.mp haccount
    have hget := Catalogue.mem_values.mp (Catalogue.mem_values_of_get? ha).1
    rw [← hid]
    exact Option.isSome_of_eq_some hget
  next name _ =>
    obtain ⟨a, ha, hid⟩ := Option.map_eq_some_iff.mp haccount
    have hget := Catalogue.mem_values.mp (Catalogue.named?_spec ha).1
    rw [← hid]
    exact Option.isSome_of_eq_some hget

/-- What a batch that passes touches exists. -/
lemma Tenant.Passes.offers (h : t.Passes (current.map Grant.entitlement) changes)
    {r : ResolvedChange} (hr : r ∈ t.resolveAll changes) {e : Entitlement}
    (ht : r.Touches (current.map Grant.entitlement) e) : t.Offers e := by
  have hrole : ∀ id name, r.role = some (id, name) → (t.roles.get? id).isSome := fun id name hr' => by
    obtain ⟨role, hget, -⟩ := role_of_mem_resolveAll hr hr'
    exact Option.isSome_of_eq_some hget
  have haccount := isSome_get?_of_mem_resolveAll hr
  rcases ht with ⟨he, htakes⟩ | hgiven
  · unfold ResolvedChange.takes at htakes
    split at htakes
    next id name _ target =>
      obtain rfl : e = ⟨r.account, id⟩ := by simpa using htakes
      exact ⟨haccount, hrole id name target⟩
    next op target =>
      have hsame : e.account = r.account := by simpa using htakes
      refine ⟨hsame ▸ haccount, ?_⟩
      rw [Option.isSome_iff_ne_none]
      exact fun hlost => h.found r hr ⟨op, target, e, he, hsame, hlost⟩
    next => cases htakes
  · unfold ResolvedChange.given? at hgiven
    split at hgiven
    next id name _ target =>
      obtain rfl := Option.some.inj hgiven
      exact ⟨haccount, hrole id name target⟩
    next => cases hgiven

lemma Tenant.Passes.offers_changed (user : Uuid)
    (h : t.Passes (current.map Grant.entitlement) changes) {g : Grant}
    (hg : g ∈ (outcomeOf user current (byPriority (t.resolveAll changes))).added ∨
      g ∈ (outcomeOf user current (byPriority (t.resolveAll changes))).removed) :
    t.Offers g.entitlement := by
  rcases hg with hg | hg
  · obtain ⟨r, hr, e, hgiven, rfl⟩ := mem_additions.mp hg
    exact h.offers (mem_byPriority.mp hr) (Or.inr hgiven)
  · obtain ⟨hg, htakes⟩ := List.mem_filter.mp hg
    rw [takesAny_byPriority] at htakes
    obtain ⟨r, hr, htakes⟩ := List.any_eq_true.mp htakes
    exact h.offers hr (Or.inl ⟨List.mem_map_of_mem hg, htakes⟩)

end Done

/-! ### Changes of single entitlements -/

section Single

variable {t : Tenant} {e e' : Entitlement}

lemma Tenant.Offers.resolve?_eq (h : t.Offers e) (hd : t.roles.DistinctNames) (op : ChangeOp) :
    t.resolve? (t.single op e).change = some (t.single op e) := by
  obtain ⟨a, ha⟩ := Option.isSome_iff_exists.mp h.account
  obtain ⟨r, hr⟩ := Option.isSome_iff_exists.mp h.role
  have hname : t.roleName e.role = r.name := by simp [roleName, hr]
  have haccount : t.account? e.account.toText = some e.account := by
    have hid : a.id = e.account := (Catalogue.mem_values_of_get? ha).2
    simp [account?, AccountRef.ofText, Uuid.ofText?_toText, ha, hid]
  have htarget : t.target? (.role (t.roleName e.role)) = some (some (e.role, t.roleName e.role)) := by
    have hid : r.id = e.role := (Catalogue.mem_values_of_get? hr).2
    have hnamed : t.roles.named? r.name = some r := hd.named?_name hr
    simp [target?, hname, hnamed, hid]
  exact resolve?_eq_some.mpr ⟨rfl, haccount, htarget⟩

lemma takes_single_removeOne : (t.single .removeOne e).takes e' ↔ e' = e := by
  simp [Tenant.single, ResolvedChange.takes]

lemma given?_single_removeOne : (t.single .removeOne e).given? = none := rfl

lemma takes_single_add : (t.single .add e).takes e' = false := rfl

lemma given?_single_add : (t.single .add e).given? = some e := rfl

end Single

/-! ### Undoing -/

section Undoing

variable {t : Tenant} {before kept : List Grant} {done : GrantChanges}
  {undo : List Change}

/-- The changes that undo what was done, looked up. -/
lemma Tenant.mem_resolveAll_undoing (hd : t.roles.DistinctNames)
    (hoffers : ∀ g, g ∈ done.added ∨ g ∈ done.removed → t.Offers g.entitlement)
    (hundo : undo.Perm (t.undoing done)) {r : ResolvedChange} :
    r ∈ t.resolveAll undo ↔ (∃ e ∈ done.added.map Grant.entitlement, r = t.single .removeOne e) ∨
      ∃ e ∈ done.removed.map Grant.entitlement, r = t.single .add e := by
  unfold resolveAll undoing at *
  simp only [List.mem_filterMap, hundo.mem_iff, List.mem_append, List.mem_map]
  constructor
  · rintro ⟨c, ⟨g, hg, rfl⟩ | ⟨g, hg, rfl⟩, hr⟩
    · have hres := (hoffers g (Or.inl hg)).resolve?_eq hd .removeOne
      exact Or.inl ⟨_, ⟨g, hg, rfl⟩, Option.some.inj (hr.symm.trans hres)⟩
    · have hres := (hoffers g (Or.inr hg)).resolve?_eq hd .add
      exact Or.inr ⟨_, ⟨g, hg, rfl⟩, Option.some.inj (hr.symm.trans hres)⟩
  · rintro (⟨-, ⟨g, hg, rfl⟩, rfl⟩ | ⟨-, ⟨g, hg, rfl⟩, rfl⟩)
    · exact ⟨_, Or.inl ⟨g, hg, rfl⟩, (hoffers g (Or.inl hg)).resolve?_eq hd .removeOne⟩
    · exact ⟨_, Or.inr ⟨g, hg, rfl⟩, (hoffers g (Or.inr hg)).resolve?_eq hd .add⟩

section Parts

variable (hparts : done.Parts before kept)

include hparts

lemma GrantChanges.Parts.mem_grants {e : Entitlement} : e ∈ done.grants.map Grant.entitlement ↔
    e ∈ kept.map Grant.entitlement ∨ e ∈ done.added.map Grant.entitlement := by
  rw [hparts.grants, List.map_append, List.mem_append]

lemma GrantChanges.Parts.mem_before {e : Entitlement} : e ∈ before.map Grant.entitlement ↔
    e ∈ kept.map Grant.entitlement ∨ e ∈ done.removed.map Grant.entitlement := by
  rw [← (hparts.perm.map Grant.entitlement).mem_iff, List.map_append, List.mem_append]

lemma GrantChanges.Parts.nodup_parts :
    (kept.map Grant.entitlement ++ done.removed.map Grant.entitlement).Nodup := by
  rw [← List.map_append, (hparts.perm.map Grant.entitlement).nodup_iff]
  exact hparts.nodup_before

lemma GrantChanges.Parts.not_mem_added_of_kept {e : Entitlement}
    (he : e ∈ kept.map Grant.entitlement) : e ∉ done.added.map Grant.entitlement := fun hadded =>
  hparts.fresh e hadded (hparts.mem_before.mpr (Or.inl he))

/-- What was taken away is not held any more. -/
lemma GrantChanges.Parts.not_mem_grants_of_removed {e : Entitlement}
    (he : e ∈ done.removed.map Grant.entitlement) : e ∉ done.grants.map Grant.entitlement := by
  rw [hparts.mem_grants]
  rintro (hkept | hadded)
  · exact List.disjoint_of_nodup_append hparts.nodup_parts hkept he
  · exact hparts.fresh e hadded (hparts.mem_before.mpr (Or.inr he))

end Parts

section Batch

variable {batch : List ResolvedChange}
  (hbatch : ∀ r, r ∈ batch ↔ (∃ e ∈ done.added.map Grant.entitlement, r = t.single .removeOne e) ∨
    ∃ e ∈ done.removed.map Grant.entitlement, r = t.single .add e)

include hbatch

lemma takesAny_undoing {e : Entitlement} :
    takesAny batch e ↔ e ∈ done.added.map Grant.entitlement := by
  unfold takesAny
  simp only [List.any_eq_true, hbatch]
  constructor
  · rintro ⟨r, ⟨e', he', rfl⟩ | ⟨e', -, rfl⟩, htakes⟩
    · exact takes_single_removeOne.mp htakes ▸ he'
    · cases takes_single_add.symm.trans htakes
  · exact fun he => ⟨_, Or.inl ⟨e, he, rfl⟩, takes_single_removeOne.mpr rfl⟩

lemma given?_undoing {e : Entitlement} :
    (∃ r ∈ batch, r.given? = some e) ↔ e ∈ done.removed.map Grant.entitlement := by
  simp only [hbatch]
  constructor
  · rintro ⟨r, ⟨e', -, rfl⟩ | ⟨e', he', rfl⟩, hgiven⟩
    · cases given?_single_removeOne.symm.trans hgiven
    · exact Option.some.inj (given?_single_add.symm.trans hgiven) ▸ he'
  · exact fun he => ⟨_, Or.inr ⟨e, he, rfl⟩, given?_single_add⟩

variable (hparts : done.Parts before kept)

include hparts

/-- What undoes a batch fits what the batch leaves. -/
lemma GrantChanges.Parts.fits_undoing :
    ∀ r ∈ batch, r.Fits (done.grants.map Grant.entitlement) := by
  intro r hr
  rcases (hbatch r).mp hr with ⟨e, he, rfl⟩ | ⟨e, he, rfl⟩
  · exact .removeOne rfl rfl (hparts.mem_grants.mpr (Or.inr he))
  · exact .add rfl rfl (hparts.not_mem_grants_of_removed he)

/-- Something is left if something was held before. -/
lemma GrantChanges.Parts.not_drains_undoing (hbefore : before ≠ []) :
    ¬Drains (done.grants.map Grant.entitlement) batch := by
  rintro ⟨-, htaken, hadds⟩
  obtain ⟨g, hg⟩ := List.exists_mem_of_ne_nil _ hbefore
  rcases hparts.mem_before.mp (List.mem_map_of_mem hg) with hkept | hremoved
  · have htakes := htaken _ (hparts.mem_grants.mpr (Or.inl hkept))
    exact hparts.not_mem_added_of_kept hkept ((takesAny_undoing hbatch).mp htakes)
  · exact hadds _ ((hbatch _).mpr (Or.inr ⟨_, hremoved, rfl⟩)) rfl

/-- **What undoing does**: it gives back what was held, and exchanges what is added and what is taken
away. -/
lemma GrantChanges.Parts.undoes_outcomeOf (user : Uuid) :
    (outcomeOf user done.grants (byPriority batch)).Undoes done before where
  grants e := by
    have hfits := hparts.fits_undoing hbatch
    rw [mem_map_outcomeOf hfits, given?_undoing hbatch, hparts.mem_before, ← Bool.not_eq_true,
      takesAny_undoing hbatch, hparts.mem_grants]
    refine or_congr_left ⟨?_, fun hkept => ⟨Or.inl hkept, hparts.not_mem_added_of_kept hkept⟩⟩
    rintro ⟨hkept | hadded, hnot⟩
    · exact hkept
    · exact absurd hadded hnot
  added := by
    have hremoved := (List.nodup_append.mp hparts.nodup_parts).2.1
    rw [outcomeOf, List.perm_ext_iff_of_nodup (nodup_additions _ _) hremoved]
    intro e
    simp only [mem_map_additions, mem_byPriority]
    exact given?_undoing hbatch
  removed := by
    have hkept : kept.filter (fun g => takesAny batch g.entitlement) = [] := by
      refine List.filter_eq_nil_iff.mpr fun g hg htakes => ?_
      exact hparts.not_mem_added_of_kept (List.mem_map_of_mem hg)
        ((takesAny_undoing hbatch).mp htakes)
    have hadded : done.added.filter (fun g => takesAny batch g.entitlement) = done.added :=
      List.filter_eq_self.mpr fun g hg => (takesAny_undoing hbatch).mpr (List.mem_map_of_mem hg)
    unfold outcomeOf
    simp only [takesAny_byPriority]
    rw [hparts.grants, List.filter_append, hkept, hadded, List.nil_append]

end Batch

lemma GrantChanges.Undoes.of_distinctGrants {back : GrantChanges} {current : List Grant}
    (h : back.Undoes done (distinctGrants current)) : back.Undoes done current :=
  ⟨fun e => (h.grants e).trans mem_map_distinctGrants, h.added, h.removed⟩

/-- What is undone touches the same roles. -/
lemma GrantChanges.Undoes.changedRoles_eq {back : GrantChanges} (h : back.Undoes done before) :
    t.changedRoles back = t.changedRoles done := by
  have hroles : ∀ gs : List Grant, gs.map (·.role) = (gs.map Grant.entitlement).map (·.role) :=
    fun gs => by rw [List.map_map]; rfl
  refine SortedSet.ext_mem fun name => ?_
  unfold Tenant.changedRoles
  simp only [Tenant.mem_roleNames, List.map_append, List.mem_append, hroles, h.removed,
    (h.added.map _).mem_iff]
  refine exists_congr fun id => and_congr_left' or_comm

/-- What undoes a batch passes every stage before permission. -/
lemma Tenant.passes_undoing (hd : t.roles.DistinctNames) (hparts : done.Parts before kept)
    (hbefore : before ≠ [])
    (hoffers : ∀ g, g ∈ done.added ∨ g ∈ done.removed → t.Offers g.entitlement)
    (hundo : undo.Perm (t.undoing done)) :
    t.Passes (done.grants.map Grant.entitlement) undo := by
  have hbatch := fun r => t.mem_resolveAll_undoing hd hoffers hundo (r := r)
  refine ⟨fun c hc => ?_, fun r hr => ?_, hparts.fits_undoing hbatch,
    hparts.not_drains_undoing hbatch hbefore⟩
  · rw [← resolve?_eq_none]
    rcases List.mem_append.mp (hundo.mem_iff.mp hc) with hc | hc <;>
      obtain ⟨g, hg, rfl⟩ := List.mem_map.mp hc
    · have hres := (hoffers g (Or.inl hg)).resolve?_eq hd .removeOne
      exact fun hnone => Option.some_ne_none _ (hres.symm.trans hnone)
    · have hres := (hoffers g (Or.inr hg)).resolve?_eq hd .add
      exact fun hnone => Option.some_ne_none _ (hres.symm.trans hnone)
  · rintro ⟨op, -⟩
    rcases (hbatch r).mp hr with ⟨e, -, rfl⟩ | ⟨e, -, rfl⟩ <;> cases op

end Undoing

/-- A batch that passes changes something. -/
lemma Tenant.Passes.undoing_ne_nil {t : Tenant} {user : Uuid} {current : List Grant}
    {changes : List Change} (h : t.Passes (current.map Grant.entitlement) changes)
    (hne : changes ≠ []) :
    t.undoing (outcomeOf user current (byPriority (t.resolveAll changes))) ≠ [] := by
  have htouched := touchedRoles_ne_empty (resolveAll_ne_nil h.known hne) h.fits h.found
    fun r hr _ _ => role_of_mem_resolveAll hr
  intro hnil
  unfold undoing at hnil
  obtain ⟨hadded, hremoved⟩ := List.append_eq_nil_iff.mp hnil
  rw [touchedRoles_eq user, changedRoles, List.map_eq_nil_iff.mp hadded,
    List.map_eq_nil_iff.mp hremoved] at htouched
  cases htouched

namespace Directory

/-- **An applied batch can be undone** by the same principal, if the user had something before: the
requests that take away what was added and give what was taken away, in any order, are applied and
give back what was held. -/
theorem undoes (d : Directory) (name : String) (p : Policy) (user acting : Uuid)
    {current : List Grant} {changes undo : List Change} {done : GrantChanges} (hd : d.failing = [])
    (hnames : (d.tenant name).roles.DistinctNames) (hcurrent : current ≠ []) (hne : changes ≠ [])
    (h : (d.run name (p.reconcile user acting current changes)).2 = .ok (.applied done))
    (hundo : undo.Perm ((d.tenant name).undoing done)) :
    ∃ back, (d.run name (p.reconcile user acting done.grants undo)).2 = .ok (.applied back) ∧
      back.Undoes done current := by
  rw [run_of_answering hd] at h ⊢
  have hends := (d.tenant name).ends_reconcile p.rule user acting current hnames hne
  obtain ⟨passes, hfound, hmay, hdone⟩ := (hends.stages.applied done).mp h
  have hparts := parts_outcomeOf user (nodup_distinctGrants current) passes.fits
  have hoffers := fun g => passes.offers_changed user (g := g)
  have hundone : undo ≠ [] := fun hnil => by
    rw [hnil, hdone] at hundo
    exact passes.undoing_ne_nil hne hundo.nil_eq.symm
  rw [← hdone] at hparts hoffers
  have hback := hparts.undoes_outcomeOf
    (fun _ => Tenant.mem_resolveAll_undoing hnames hoffers hundo) user
  have hpasses := Tenant.passes_undoing hnames hparts (mt distinctGrants_eq_nil.mp hcurrent)
    hoffers hundo
  have hends' := (d.tenant name).ends_reconcile p.rule user acting done.grants hnames hundone
  rw [distinctGrants_of_nodup hparts.nodup_grants] at hends'
  refine ⟨_, (hends'.stages.applied _).mpr ⟨hpasses, hfound, ?_, rfl⟩, hback.of_distinctGrants⟩
  rw [touchedRoles_eq user] at hmay ⊢
  rw [← hdone] at hmay
  rw [hback.changedRoles_eq]
  exact hmay

/-- A role that was replaced is put back, by whoever was allowed to replace it. -/
theorem undoes_sample :
    let changes := [Change.add "main" "reader", .removeAll "main"]
    let done : GrantChanges := ⟨[⟨6, 1, 2⟩], [⟨6, 1, 2⟩], [⟨6, 1, 3⟩]⟩
    let undo := [Change.add "00000000-0000-0000-0000-000000000001" "writer",
      .removeOne "00000000-0000-0000-0000-000000000001" "reader"]
    sample.failing = [] ∧ (sample.tenant "acme").roles.DistinctNames ∧
      [(⟨6, 1, 3⟩ : Grant)] ≠ [] ∧ changes ≠ [] ∧
      (sample.run "acme" (Policy.standard.reconcile 6 5 [⟨6, 1, 3⟩] changes)).2 =
        .ok (.applied done) ∧
      undo.Perm ((sample.tenant "acme").undoing done) ∧
      ∃ back, (sample.run "acme" (Policy.standard.reconcile 6 5 done.grants undo)).2 =
        .ok (.applied back) ∧ back.Undoes done [⟨6, 1, 3⟩] := by
  intro changes done undo
  have hrun : (sample.run "acme" (Policy.standard.reconcile 6 5 [⟨6, 1, 3⟩] changes)).2 =
      .ok (.applied done) := by decide
  have hundo : undo.Perm ((sample.tenant "acme").undoing done) := by decide +kernel
  exact ⟨rfl, by decide, by decide, by decide, hrun, hundo,
    undoes sample "acme" .standard 6 5 rfl (by decide) (by decide) (by decide) hrun hundo⟩

end Directory

end Provisioning
