import Provisioning.Proofs.Grant.Stages

/-!
A batch is not applied twice.

What a batch that was applied takes away one by one is not held after it, what it gives is, and if
it does neither, nothing is left on the accounts from which it takes all. So for what it leaves, one
of its changes does not fit (`Tenant.Passes.exists_misfit_after`), and no role of an account from
which all is taken can be one that does not exist (`Tenant.Passes.found_after`).
-/

namespace Provisioning

/-- Two tenants have the same roles and the same accounts. -/
structure Tenant.SameCatalogues (t t' : Tenant) : Prop where
  roles : t'.roles = t.roles
  accounts : t'.accounts = t.accounts

section Catalogues

variable {t t' : Tenant} (h : t.SameCatalogues t')

include h

/-- What a change names is looked up in roles and accounts only. -/
lemma Tenant.SameCatalogues.resolve?_eq (c : Change) : t'.resolve? c = t.resolve? c := by
  have haccount : t'.account? c.account = t.account? c.account := by
    unfold account?
    rw [h.accounts]
  have htarget : t'.target? c.target = t.target? c.target := by
    cases c.target with
    | role name =>
      unfold target?
      rw [h.roles]
    | allRoles => rfl
  unfold resolve?
  rw [haccount, htarget]

lemma Tenant.SameCatalogues.resolveAll_eq (changes : List Change) :
    t'.resolveAll changes = t.resolveAll changes :=
  List.filterMap_congr fun c _ => h.resolve?_eq c

lemma Tenant.SameCatalogues.unknown_iff {c : Change} : t'.Unknown c ↔ t.Unknown c := by
  rw [← resolve?_eq_none, ← resolve?_eq_none, h.resolve?_eq c]

lemma Tenant.SameCatalogues.meetsLostRole_iff {held : List Entitlement} {r : ResolvedChange} :
    t'.MeetsLostRole held r ↔ t.MeetsLostRole held r := by
  unfold MeetsLostRole
  rw [h.roles]

end Catalogues

section After

variable {t : Tenant} {user : Uuid} {current : List Grant} {changes : List Change}

/-- What is held on an account from which a batch takes all was given by the batch. -/
lemma Tenant.Passes.given_of_removeAll (h : t.Passes (current.map Grant.entitlement) changes)
    {r : ResolvedChange} (hr : r ∈ t.resolveAll changes) (op : r.change.op = .removeAll)
    (target : r.role = none) {e : Entitlement}
    (he : e ∈ (outcomeOf user current (byPriority (t.resolveAll changes))).grants.map
      Grant.entitlement) (account : e.account = r.account) :
    ∃ r' ∈ t.resolveAll changes, r'.given? = some e := by
  rcases (mem_map_outcomeOf h.fits).mp he with ⟨-, hkept⟩ | hgiven
  · have htakes : r.takes e := by simp [ResolvedChange.takes, op, target, account]
    exact absurd htakes (List.any_eq_false.mp hkept r hr)
  · exact hgiven

/-- No change of the batch meets a role that does not exist: what it gave was looked up. -/
lemma Tenant.Passes.found_after (h : t.Passes (current.map Grant.entitlement) changes) :
    ∀ r ∈ t.resolveAll changes, ¬t.MeetsLostRole
      ((outcomeOf user current (byPriority (t.resolveAll changes))).grants.map Grant.entitlement)
      r := by
  rintro r hr ⟨op, target, e, he, account, hlost⟩
  obtain ⟨r', hr', hgiven⟩ := h.given_of_removeAll hr op target he account
  unfold ResolvedChange.given? at hgiven
  split at hgiven
  next _ role hop hrole =>
    obtain rfl := Option.some.inj hgiven
    obtain ⟨found, hfound, -⟩ := role_of_mem_resolveAll hr' hrole
    cases hlost.symm.trans hfound
  next => cases hgiven

/-- Some change of the batch does not fit what the batch leaves. -/
lemma Tenant.Passes.exists_misfit_after (h : t.Passes (current.map Grant.entitlement) changes)
    (hne : changes ≠ []) : ∃ r ∈ t.resolveAll changes, ¬r.Fits
      ((outcomeOf user current (byPriority (t.resolveAll changes))).grants.map
        Grant.entitlement) := by
  by_contra hall
  have hfits : ∀ r ∈ t.resolveAll changes, r.Fits ((outcomeOf user current
      (byPriority (t.resolveAll changes))).grants.map Grant.entitlement) :=
    fun r hr => by_contra fun hr' => hall ⟨r, hr, hr'⟩
  have hnone : ∀ r ∈ t.resolveAll changes, r.given? = none := fun r hr => by
    rcases hgiven : r.given? with _ | e
    · rfl
    · exact absurd ((mem_map_outcomeOf h.fits).mpr (Or.inr ⟨r, hr, hgiven⟩))
        ((hfits r hr).fresh hgiven)
  -- nothing is given, so whatever is held after the batch is not taken away by it
  have hkept : ∀ r ∈ t.resolveAll changes, ∀ e ∈ (outcomeOf user current
      (byPriority (t.resolveAll changes))).grants.map Grant.entitlement, ¬r.takes e :=
    fun r hr e he => by
      rcases (mem_map_outcomeOf h.fits).mp he with ⟨-, hkept⟩ | ⟨r', hr', hgiven⟩
      · exact List.any_eq_false.mp hkept r hr
      · cases (hnone r' hr').symm.trans hgiven
  obtain ⟨r, hr⟩ := List.exists_mem_of_ne_nil _ (resolveAll_ne_nil h.known hne)
  cases hfits r hr with
  | @removeOne role _ op target mem =>
    exact hkept r hr ⟨r.account, role⟩ mem (by simp [ResolvedChange.takes, op, target])
  | removeAll op target mem account =>
    exact hkept r hr _ mem (by simp [ResolvedChange.takes, op, target, account])
  | @add role _ op target =>
    have hgiven : r.given? = some ⟨r.account, role⟩ := by
      simp [ResolvedChange.given?, op, target]
    cases (hnone r hr).symm.trans hgiven

end After

namespace Directory

/-- **A batch that was applied is refused when it is given again**, whoever gives it, for the grants
that it left. Roles and accounts are the same then; anything else may have changed. -/
theorem refusesReplay (d d' : Directory) (name : String) (p : Policy) (user acting acting' : Uuid)
    (current : List Grant) {changes : List Change} {done : GrantChanges} (hd : d.failing = [])
    (hd' : d'.failing = []) (hnames : (d.tenant name).roles.DistinctNames)
    (hsame : (d.tenant name).SameCatalogues (d'.tenant name)) (hne : changes ≠ [])
    (h : (d.run name (p.reconcile user acting current changes)).2 = .ok (.applied done)) :
    ∃ errors, (d'.run name (p.reconcile user acting' done.grants changes)).2 =
      .ok (.rejected (.invalidOperations errors) errors) := by
  rw [run_of_answering hd] at h
  rw [run_of_answering hd']
  have hends := (d.tenant name).ends_reconcile p.rule user acting current hnames hne
  obtain ⟨passes, -, -, rfl⟩ := (hends.stages.applied done).mp h
  have hnames' : (d'.tenant name).roles.DistinctNames := by
    rw [hsame.roles]
    exact hnames
  have hnodup := nodup_outcomeOf user (nodup_distinctGrants current) passes.fits
  have hends' := (d'.tenant name).ends_reconcile p.rule user acting'
    (outcomeOf user (distinctGrants current)
      (byPriority ((d.tenant name).resolveAll changes))).grants hnames' hne
  rw [distinctGrants_of_nodup hnodup] at hends'
  have hknown : ∀ c ∈ changes, ¬(d'.tenant name).Unknown c := fun c hc =>
    mt hsame.unknown_iff.mp (passes.known c hc)
  refine (hends'.stages.misfit hknown ?_).mpr ?_
  · rw [hsame.resolveAll_eq]
    exact fun r hr => mt hsame.meetsLostRole_iff.mp (passes.found_after r hr)
  · rw [hsame.resolveAll_eq]
    exact passes.exists_misfit_after hne

/-- A role is replaced by taking away all and adding one. Again, there is something to take away, but
what is added is held. -/
theorem refusesReplay_sample :
    let changes := [Change.add "main" "reader", .removeAll "main"]
    let after := sample.update "acme" (·.replaceGrants 6 [⟨6, 1, 2⟩])
    sample.failing = [] ∧ after.failing = [] ∧ (sample.tenant "acme").roles.DistinctNames ∧
      (sample.tenant "acme").SameCatalogues (after.tenant "acme") ∧ changes ≠ [] ∧
      (sample.run "acme" (Policy.standard.reconcile 6 5 [⟨6, 1, 3⟩] changes)).2 =
        .ok (.applied ⟨[⟨6, 1, 2⟩], [⟨6, 1, 2⟩], [⟨6, 1, 3⟩]⟩) ∧
      ∃ errors, (after.run "acme" (Policy.standard.reconcile 6 4 [⟨6, 1, 2⟩] changes)).2 =
        .ok (.rejected (.invalidOperations errors) errors) := by
  intro changes after
  have hsame : (sample.tenant "acme").SameCatalogues (after.tenant "acme") :=
    ⟨by decide, by decide⟩
  have hrun : (sample.run "acme" (Policy.standard.reconcile 6 5 [⟨6, 1, 3⟩] changes)).2 =
      .ok (.applied ⟨[⟨6, 1, 2⟩], [⟨6, 1, 2⟩], [⟨6, 1, 3⟩]⟩) := by decide
  have hagain := refusesReplay sample after "acme" .standard 6 5 4 [⟨6, 1, 3⟩] rfl rfl (by decide)
    hsame (by decide) hrun
  exact ⟨rfl, rfl, by decide, hsame, by decide, hrun, hagain⟩

end Directory

end Provisioning
