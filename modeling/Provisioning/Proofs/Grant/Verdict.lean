import Provisioning.Operations
import Provisioning.Proofs.Grant.Judge
import Provisioning.Proofs.Grant.References
import Provisioning.Proofs.Permission

/-!
The verdict on a batch, stage by stage.

The stages of judging a batch are followed one by one, where every question is answered. A batch
that passes those before permission (`Tenant.Passes`) is put to the question of permission, and the
roles that are asked about are those that the batch touches.
-/

namespace Provisioning

/-- A batch takes away all that is held and gives nothing. -/
def Drains (held : List Entitlement) (batch : List ResolvedChange) : Prop :=
  held ≠ [] ∧ (∀ e ∈ held, takesAny batch e) ∧ ∀ r ∈ batch, r.change.op ≠ .add

/-- A batch passes the stages before permission. -/
structure Tenant.Passes (t : Tenant) (held : List Entitlement) (changes : List Change) : Prop where
  known : ∀ c ∈ changes, ¬t.Unknown c
  found : ∀ r ∈ t.resolveAll changes, ¬t.MeetsLostRole held r
  fits : ∀ r ∈ t.resolveAll changes, r.Fits held
  keeps : ¬Drains held (t.resolveAll changes)

instance (held : List Entitlement) (batch : List ResolvedChange) : Decidable (Drains held batch) :=
  inferInstanceAs (Decidable (held ≠ [] ∧ (∀ e ∈ held, takesAny batch e) ∧
    ∀ r ∈ batch, r.change.op ≠ .add))

instance (t : Tenant) (held : List Entitlement) (changes : List Change) :
    Decidable (t.Passes held changes) :=
  decidable_of_iff ((∀ c ∈ changes, ¬t.Unknown c) ∧
      (∀ r ∈ t.resolveAll changes, ¬t.MeetsLostRole held r) ∧
      (∀ r ∈ t.resolveAll changes, r.Fits held) ∧ ¬Drains held (t.resolveAll changes))
    ⟨fun ⟨known, found, fits, keeps⟩ => ⟨known, found, fits, keeps⟩,
      fun h => ⟨h.known, h.found, h.fits, h.keeps⟩⟩

open Resolving

section Order

variable {user : Uuid} {current : List Grant} {held : List Entitlement}
  {batch : List ResolvedChange} {t : Tenant} {changes : List Change}

lemma touchedRoles_byPriority (held : List Entitlement) (batch : List ResolvedChange) :
    t.touchedRoles held (byPriority batch) = t.touchedRoles held batch := by
  refine SortedSet.ext_mem fun name => ?_
  simp only [Tenant.mem_touchedRoles, mem_byPriority]

lemma map_change_byPriority (h : ∀ c ∈ changes, ¬t.Unknown c) :
    (byPriority (t.resolveAll changes)).map (·.change) = ChangeOp.inOrder (·.op) changes := by
  unfold byPriority ChangeOp.inOrder
  rw [List.map_flatMap]
  conv_rhs => rw [← Tenant.map_change_resolveAll h]
  refine List.flatMap_congr fun op _ => ?_
  rw [List.filter_map]
  rfl

/-- Nothing is left exactly if all is taken away and nothing is given. -/
lemma carryOut_eq_nil (user : Uuid) (h : ∀ r ∈ batch, r.Fits (current.map Grant.entitlement)) :
    carryOut user (byPriority batch) current = [] ↔
      (∀ e ∈ current.map Grant.entitlement, takesAny batch e) ∧
        ∀ r ∈ batch, r.change.op ≠ .add := by
  rw [carryOut_byPriority h, List.append_eq_nil_iff, List.filter_eq_nil_iff, List.forall_mem_map]
  refine and_congr (by simp) ⟨fun hnil r hr hop => ?_, fun hops => ?_⟩
  · obtain ⟨e, he, -⟩ := (h r hr).given?_eq hop
    have hmem : e ∈ distinctBy id [] ((byPriority batch).filterMap (·.given?)) :=
      mem_distinctBy_id.mpr (List.mem_filterMap.mpr ⟨r, mem_byPriority.mpr hr, he⟩)
    rw [List.map_eq_nil_iff.mp hnil] at hmem
    cases hmem
  · have hnone : (byPriority batch).filterMap (·.given?) = [] :=
      List.filterMap_eq_nil_iff.mpr fun r hr => r.given?_of_op (hops r (mem_byPriority.mp hr))
    unfold additions
    rw [hnone]
    rfl

/-- A batch whose changes fit touches some role. -/
lemma touchedRoles_ne_empty (hne : batch ≠ []) (hfits : ∀ r ∈ batch, r.Fits held)
    (hfound : ∀ r ∈ batch, ¬t.MeetsLostRole held r)
    (hrole : ∀ r ∈ batch, ∀ id name, r.role = some (id, name) →
      ∃ role, t.roles.get? id = some role ∧ role.name = name) :
    (t.touchedRoles held batch).isEmpty = false := by
  obtain ⟨r, hr⟩ := List.exists_mem_of_ne_nil _ hne
  have hmem : ∃ name, name ∈ t.touchedRoles held batch := by
    simp only [Tenant.mem_touchedRoles]
    cases hfits r hr with
    | @removeOne id _ op target mem =>
      obtain ⟨role, hget, hname⟩ := hrole r hr _ _ target
      refine ⟨_, r, hr, ⟨r.account, id⟩, Or.inl ⟨mem, ?_⟩, role, hget, hname⟩
      simp [ResolvedChange.takes, op, target]
    | @removeAll e op target mem account =>
      rcases hget : t.roles.get? e.role with _ | role
      · exact absurd ⟨op, target, e, mem, account, hget⟩ (hfound r hr)
      · refine ⟨_, r, hr, e, Or.inl ⟨mem, ?_⟩, role, hget, rfl⟩
        simp [ResolvedChange.takes, op, target, account]
    | @add id _ op target fresh =>
      obtain ⟨role, hget, hname⟩ := hrole r hr _ _ target
      refine ⟨_, r, hr, ⟨r.account, id⟩, Or.inr ?_, role, hget, hname⟩
      simp [ResolvedChange.given?, op, target]
  obtain ⟨name, hname⟩ := hmem
  unfold SortedSet.isEmpty
  exact List.isEmpty_eq_false_iff_exists_mem.mpr ⟨name, hname⟩

end Order

namespace PermissionRule

variable (rule : PermissionRule) {t : Tenant} {l : Lookups} (user acting : Uuid)
  {current : List Grant} {changes : List Change}

/-! ### Permission -/

lemma on_permit_of_lost (h : l.roles.Reflects t.roles) (roles : SortedSet String)
    (requests : List Change) (after : GrantChanges)
    (hlost : t.lostRoles (t.heldRoleIds acting) ≠ []) :
    on t (rule.permit acting roles requests after) l =
      .error (.unresolvedRoles acting ((t.lostRoles (t.heldRoleIds acting)).map Uuid.toText)) :=
  on_bind_of_error (on_isPermitted_of_lost h roles hlost) _

/-- Permission applies a batch or refuses each of its changes. -/
lemma on_permit (h : l.roles.Reflects t.roles) (hd : t.roles.DistinctNames)
    {roles : SortedSet String} (requests : List Change) (after : GrantChanges)
    (hlost : t.lostRoles (t.heldRoleIds acting) = [])
    (hroles : ∀ name ∈ roles, (t.roles.named? name).isSome) :
    ∃ l', (t.MayTouch rule acting roles →
        on t (rule.permit acting roles requests after) l = .ok (.applied after, l')) ∧
      (¬t.MayTouch rule acting roles → on t (rule.permit acting roles requests after) l =
        .ok (.rejected (.notPermitted acting roles.toList)
          (requests.map fun c => c.refuse .permissionDenied), l')) := by
  obtain ⟨decision, l', hon, hmay⟩ := rule.on_isPermitted h hd hlost hroles
  refine ⟨l', fun hm => ?_, fun hm => ?_⟩
  · unfold permit
    rw [on_bind_of_ok hon, if_pos (hmay.mpr hm)]
    rfl
  · unfold permit
    rw [on_bind_of_ok hon, if_neg (mt hmay.mp hm)]
    rfl

/-! ### The stages -/

lemma on_reconcile_of_unknown (current : List Grant) (hd : t.roles.DistinctNames)
    (hunknown : ∃ c ∈ changes, t.Unknown c) :
    ∃ l, on t (rule.reconcile user acting current changes) ∅ =
      .ok (.rejected (.unknownReferences (t.missingReferencesOf changes))
        (t.missingReferencesOf changes), l) := by
  obtain ⟨l, hon, hl⟩ := on_resolveReferences hd changes
    ((distinctGrants current).map (·.role))
  obtain ⟨c, hc, hcu⟩ := hunknown
  have hne : changes.isEmpty = false := List.isEmpty_eq_false_iff_exists_mem.mpr ⟨c, hc⟩
  have herrors : (t.missingReferencesOf changes).isEmpty = false :=
    List.isEmpty_eq_false_iff.mpr fun h => Tenant.missingReferencesOf_eq_nil.mp h c hc hcu
  refine ⟨l, ?_⟩
  unfold reconcile
  dsimp only
  rw [hne, if_neg Bool.false_ne_true, on_bind_of_ok hon, on_get_bind, hl.referenceErrors_eq, herrors]
  rfl

lemma on_reconcile_of_known (current : List Grant) (hd : t.roles.DistinctNames)
    (hne : changes ≠ []) (hknown : ∀ c ∈ changes, ¬t.Unknown c) :
    ∃ l, l.Serves t changes ((distinctGrants current).map (·.role)) ∧
      on t (rule.reconcile user acting current changes) ∅ =
        on t (rule.judgeBatch l user acting (distinctGrants current)
          (byPriority (t.resolveAll changes))) l := by
  obtain ⟨l, hon, hl⟩ := on_resolveReferences hd changes
    ((distinctGrants current).map (·.role))
  have herrors := hl.referenceErrors_eq_nil.mpr hknown
  refine ⟨l, hl, ?_⟩
  unfold reconcile
  dsimp only
  rw [List.isEmpty_eq_false_iff.mpr hne, if_neg Bool.false_ne_true, on_bind_of_ok hon, on_get_bind,
    herrors, hl.resolvedChanges_eq]
  rfl

section JudgeBatch

variable (h : l.Serves t changes (current.map (·.role)))

include h

lemma get?_role_of_held : ∀ e ∈ current.map Grant.entitlement,
    l.roles.get? e.role = t.roles.get? e.role := by
  intro e he
  obtain ⟨g, hg, rfl⟩ := List.mem_map.mp he
  exact h.held _ (List.mem_map_of_mem hg)

lemma on_judgeBatch_of_lost
    (hlost : ∃ r ∈ t.resolveAll changes, t.MeetsLostRole (current.map Grant.entitlement) r) :
    ∃ e ∈ current.map Grant.entitlement, t.roles.get? e.role = none ∧
      on t (rule.judgeBatch l user acting current (byPriority (t.resolveAll changes))) l =
        .error (.unresolvedRoles user [e.role.toText]) := by
  obtain ⟨r, hr, hlost⟩ := hlost
  obtain ⟨e, he, hnone, herr⟩ := judgeChanges_of_lost user (get?_role_of_held h)
    ⟨r, mem_byPriority.mpr hr, hlost⟩
  refine ⟨e, he, hnone, ?_⟩
  unfold judgeBatch
  rw [herr]
  rfl

variable (hfound : ∀ r ∈ t.resolveAll changes, ¬t.MeetsLostRole (current.map Grant.entitlement) r)

include hfound

lemma exists_judgeChanges_byPriority : ∃ effects,
    judgeChanges l user (current.map Grant.entitlement) (byPriority (t.resolveAll changes)) =
      .ok effects :=
  exists_judgeChanges user (get?_role_of_held h) fun r hr => hfound r (mem_byPriority.mp hr)

lemma on_judgeBatch_of_misfit
    (hmisfit : ∃ r ∈ t.resolveAll changes, ¬r.Fits (current.map Grant.entitlement)) :
    ∃ errors, ResolvedChange.Complaints (current.map Grant.entitlement)
        (byPriority (t.resolveAll changes)) errors ∧
      on t (rule.judgeBatch l user acting current (byPriority (t.resolveAll changes))) l =
        .ok (.rejected (.invalidOperations errors) errors, l) := by
  obtain ⟨effects, heffects⟩ := exists_judgeChanges_byPriority user h hfound
  obtain ⟨r, hr, hfits⟩ := hmisfit
  have herrors : (effects.filterMap Effect.error?).isEmpty = false :=
    List.isEmpty_eq_false_iff.mpr fun hnil =>
      hfits ((errors_eq_nil heffects).mp hnil r (mem_byPriority.mpr hr))
  refine ⟨effects.filterMap Effect.error?, complaints_judgeChanges heffects, ?_⟩
  unfold judgeBatch
  rw [heffects]
  dsimp only
  rw [herrors]
  rfl

variable (hfits : ∀ r ∈ t.resolveAll changes, r.Fits (current.map Grant.entitlement))

include hfits

lemma on_judgeBatch_of_drains
    (hdrains : Drains (current.map Grant.entitlement) (t.resolveAll changes)) :
    on t (rule.judgeBatch l user acting current (byPriority (t.resolveAll changes))) l =
      .ok (.rejected (.leavesNothing user)
        (((byPriority (t.resolveAll changes)).filter (·.change.op != .add)).map
          (·.change.refuse .wouldRemoveAll)), l) := by
  obtain ⟨effects, heffects⟩ := exists_judgeChanges_byPriority user h hfound
  have herrors := (errors_eq_nil heffects).mpr fun r hr => hfits r (mem_byPriority.mp hr)
  have hcurrent : current.isEmpty = false := by simpa using hdrains.1
  have hnil := (carryOut_eq_nil user hfits).mpr hdrains.2
  unfold judgeBatch
  rw [heffects]
  dsimp only
  rw [herrors, applyEffects_eq heffects hfits, hcurrent]
  unfold outcomeOf
  rw [hnil]
  rfl

/-- A batch that passes is put to the question of permission for the roles that it touches. -/
lemma on_judgeBatch_of_passes (hne : t.resolveAll changes ≠ [])
    (hkeeps : ¬Drains (current.map Grant.entitlement) (t.resolveAll changes)) :
    on t (rule.judgeBatch l user acting current (byPriority (t.resolveAll changes))) l =
      on t (rule.permit acting
        (t.touchedRoles (current.map Grant.entitlement) (t.resolveAll changes))
        ((byPriority (t.resolveAll changes)).map (·.change))
        (outcomeOf user current (byPriority (t.resolveAll changes)))) l := by
  obtain ⟨effects, heffects⟩ := exists_judgeChanges_byPriority user h hfound
  have herrors := (errors_eq_nil heffects).mpr fun r hr => hfits r (mem_byPriority.mp hr)
  have hrole : ∀ r ∈ t.resolveAll changes, ∀ id name, r.role = some (id, name) →
      ∃ role, t.roles.get? id = some role ∧ role.name = name := fun r hr _ _ =>
    Tenant.role_of_mem_resolveAll hr
  have hnames := ofList_roleNames (get?_role_of_held h)
    (fun r hr => hrole r (mem_byPriority.mp hr)) heffects fun r hr => hfits r (mem_byPriority.mp hr)
  rw [touchedRoles_byPriority] at hnames
  have hguard : (!current.isEmpty &&
      (outcomeOf user current (byPriority (t.resolveAll changes))).grants.isEmpty) = false := by
    rw [Bool.and_eq_false_iff]
    by_cases hcurrent : current = []
    · exact Or.inl (by simp [hcurrent])
    · refine Or.inr (List.isEmpty_eq_false_iff.mpr fun hnil => hkeeps ?_)
      exact ⟨by simpa using hcurrent, (carryOut_eq_nil user hfits).mp hnil⟩
  unfold judgeBatch
  rw [heffects]
  dsimp only
  rw [herrors, applyEffects_eq heffects hfits, hguard, hnames,
    touchedRoles_ne_empty hne hfits hfound hrole]
  rfl

end JudgeBatch

end PermissionRule

end Provisioning
