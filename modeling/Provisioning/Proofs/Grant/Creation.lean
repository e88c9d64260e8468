import Provisioning.Proofs.Grant.Gate

/-!
Creating and adding agree.

The first grants of a user and additions for a user who has nothing are judged by two procedures.
Where somebody creates the user they are the same work: the same questions are asked, whatever was
learnt before, and the same verdict is passed. For where nothing is held every addition fits, and
what additions give is what was requested without repetitions.
-/

namespace Provisioning

/-- What is added where nothing is held, if the change is about one role. -/
def ResolvedChange.addition? (r : ResolvedChange) : Option Effect :=
  r.role.map fun role => .add ⟨r.account, role.1⟩ role.2

/-- The change adds one role. -/
def ResolvedChange.IsAddition (r : ResolvedChange) : Prop :=
  r.change.op = .add ∧ ∃ id name, r.role = some (id, name)

/-! ### Additions where nothing is held -/

section Additions

variable {l : Lookups} {user : Uuid} {batch : List ResolvedChange}

lemma judgeChanges_of_additions (l : Lookups) (user : Uuid) (h : ∀ r ∈ batch, r.IsAddition) :
    judgeChanges l user [] batch = .ok (batch.filterMap ResolvedChange.addition?) := by
  induction batch with
  | nil => rfl
  | cons r rest ih =>
    obtain ⟨⟨hop, id, name, hrole⟩, hrest⟩ := List.forall_mem_cons.mp h
    have hadd : r.addition? = some (.add ⟨r.account, id⟩ name) := by
      simp [ResolvedChange.addition?, hrole]
    have hjudge : judgeChange l user [] r = .ok (.add ⟨r.account, id⟩ name) := by
      unfold judgeChange
      rw [hop, hrole]
      rfl
    unfold judgeChanges
    rw [hjudge, ih hrest, List.filterMap_cons_some hadd]
    rfl

lemma filterMap_error?_additions :
    (batch.filterMap ResolvedChange.addition?).filterMap Effect.error? = [] := by
  rw [List.filterMap_filterMap]
  refine List.filterMap_eq_nil_iff.mpr fun r _ => ?_
  rcases hrole : r.role with _ | role <;> simp [ResolvedChange.addition?, hrole, Effect.error?]

lemma flatMap_roleNames_additions :
    (batch.filterMap ResolvedChange.addition?).flatMap Effect.roleNames =
      (batch.filterMap (·.role)).map Prod.snd := by
  induction batch with
  | nil => rfl
  | cons r rest ih =>
    rcases hrole : r.role with _ | role
    · have hnone : r.addition? = none := by simp [ResolvedChange.addition?, hrole]
      rw [List.filterMap_cons_none hnone, List.filterMap_cons_none hrole, ih]
    · have hadd : r.addition? = some (.add ⟨r.account, role.1⟩ role.2) := by
        simp [ResolvedChange.addition?, hrole]
      rw [List.filterMap_cons_some hadd, List.filterMap_cons_some hrole, List.flatMap_cons, ih]
      rfl

/-- What is given is what was requested, in the order in which it was first met. -/
lemma applyEffects_additions (user : Uuid) (batch : List ResolvedChange) :
    applyEffects user [] (batch.filterMap ResolvedChange.addition?) =
      ⟨distinctGrants (batch.filterMap (PermissionRule.grantOf? user)),
        distinctGrants (batch.filterMap (PermissionRule.grantOf? user)), []⟩ := by
  have hgrant : batch.filterMap (PermissionRule.grantOf? user) =
      ((batch.filterMap ResolvedChange.addition?).filterMap Effect.given?).map
        (·.grantTo user) := by
    rw [List.filterMap_filterMap, List.map_filterMap]
    refine List.filterMap_congr fun r _ => ?_
    rcases hrole : r.role with _ | role <;>
      simp [PermissionRule.grantOf?, ResolvedChange.addition?, hrole, Effect.given?,
        Entitlement.grantTo]
  unfold applyEffects distinctGrants
  rw [hgrant, distinctBy_map]
  rfl

end Additions

/-! ### What is requested, looked up -/

section Requested

variable {l : Lookups} {requested : List RequestedGrant} {changes : List Change}

/-- A change that was looked up names the role that was looked up for it. -/
lemma resolveChange_eq_ok {c : Change} {r : ResolvedChange} (h : resolveChange l c = .ok r) :
    r.change = c ∧ resolveTarget l c.target = some r.role := by
  unfold resolveChange at h
  split at h
  next htarget =>
    obtain rfl := Except.ok.inj h
    exact ⟨rfl, htarget⟩
  all_goals cases h

lemma isAddition_of_mem_resolvedChanges {r : ResolvedChange}
    (h : r ∈ resolvedChanges l (requested.map RequestedGrant.toChange)) : r.IsAddition := by
  obtain ⟨c, hc, hr⟩ := List.mem_filterMap.mp h
  obtain ⟨q, -, rfl⟩ := List.mem_map.mp hc
  rcases hres : resolveChange l q.toChange with errors | r'
  · rw [hres] at hr
    cases hr
  rw [hres] at hr
  obtain rfl := Option.some.inj hr
  obtain ⟨hchange, htarget⟩ := resolveChange_eq_ok hres
  obtain ⟨role, -, hrole⟩ := Option.map_eq_some_iff.mp htarget
  exact ⟨by rw [hchange]; rfl, role.id, role.name, hrole.symm⟩

/-- If nothing is wrong with the references, every change is looked up in its place. -/
lemma map_change_resolvedChanges (h : referenceErrors l changes = []) :
    (resolvedChanges l changes).map (·.change) = changes := by
  unfold referenceErrors at h
  unfold resolvedChanges
  induction changes with
  | nil => rfl
  | cons c rest ih =>
    obtain ⟨hc, hrest⟩ := List.append_eq_nil_iff.mp (List.flatMap_cons ▸ h)
    rcases hr : resolveChange l c with errors | r
    · -- a reference that does not exist leaves an error
      rw [hr] at hc
      unfold resolveChange at hr
      split at hr <;> cases hr <;> cases hc
    · have hsome : (resolveChange l c).toOption = some r := by
        rw [hr]
        rfl
      rw [List.filterMap_cons_some (f := fun c => (resolveChange l c).toOption) hsome,
        List.map_cons, (resolveChange_eq_ok hr).1, ih hrest]

end Requested

/-! ### Two procedures -/

namespace PermissionRule

variable {requested : List RequestedGrant}

/-- Where everything named exists, the batch comes to the question of permission. -/
lemma judgeBatch_of_additions (rule : PermissionRule) (l : Lookups) (user acting : Uuid)
    {batch : List ResolvedChange} (h : ∀ r ∈ batch, r.IsAddition) (hne : batch ≠ []) :
    rule.judgeBatch l user acting [] (byPriority batch) =
      rule.permit acting (.ofList ((batch.filterMap (·.role)).map Prod.snd))
        (batch.map (·.change))
        ⟨distinctGrants (batch.filterMap (grantOf? user)),
          distinctGrants (batch.filterMap (grantOf? user)), []⟩ := by
  obtain ⟨r, hr⟩ := List.exists_mem_of_ne_nil _ hne
  obtain ⟨-, id, name, hrole⟩ := h r hr
  have hname : name ∈ SortedSet.ofList ((batch.filterMap (·.role)).map Prod.snd) :=
    SortedSet.mem_ofList.mpr (List.mem_map.mpr ⟨_, List.mem_filterMap.mpr ⟨r, hr, hrole⟩, rfl⟩)
  have hroles : (SortedSet.ofList ((batch.filterMap (·.role)).map Prod.snd)).isEmpty = false := by
    unfold SortedSet.isEmpty
    exact List.isEmpty_eq_false_iff.mpr (List.ne_nil_of_mem (SortedSet.mem_toList.mpr hname))
  unfold judgeBatch
  rw [byPriority_of_adds fun r hr => (h r hr).1, List.map_nil, judgeChanges_of_additions l user h]
  dsimp only
  rw [filterMap_error?_additions, flatMap_roleNames_additions, applyEffects_additions, hroles]
  rfl

lemma grants_ne_nil {user : Uuid} {batch : List ResolvedChange}
    (h : ∀ r ∈ batch, r.IsAddition) (hne : batch ≠ []) : batch.filterMap (grantOf? user) ≠ [] := by
  obtain ⟨r, hr⟩ := List.exists_mem_of_ne_nil _ hne
  obtain ⟨-, id, name, hrole⟩ := h r hr
  have hgrant : grantOf? user r = some ⟨user, r.account, id⟩ := by
    rw [grantOf?, hrole]
    rfl
  exact List.ne_nil_of_mem (List.mem_filterMap.mpr ⟨r, hr, hgrant⟩)

/-- Whatever was learnt before, the work is the same. -/
lemma initial_eq_reconcile (rule : PermissionRule) (user acting : Uuid) (hne : requested ≠ []) :
    rule.initial user (some acting) requested =
      rule.reconcile user acting [] (requested.map RequestedGrant.toChange) := by
  have hchanges : (requested.map RequestedGrant.toChange).isEmpty = false := by
    simpa using hne
  unfold initial reconcile
  dsimp only
  rw [show distinctGrants [] = [] from rfl, hchanges, if_neg Bool.false_ne_true, List.map_nil]
  refine bind_congr fun _ => bind_congr fun l => ?_
  by_cases herrors : referenceErrors l (requested.map RequestedGrant.toChange) = []
  · have hmap := map_change_resolvedChanges herrors
    have hbatch : resolvedChanges l (requested.map RequestedGrant.toChange) ≠ [] := fun hnil => by
      rw [hnil] at hmap
      exact hne (List.map_eq_nil_iff.mp hmap.symm)
    have hadds : ∀ r ∈ resolvedChanges l (requested.map RequestedGrant.toChange), r.IsAddition :=
      fun r => isAddition_of_mem_resolvedChanges
    have hgrants : (distinctGrants ((resolvedChanges l
        (requested.map RequestedGrant.toChange)).filterMap (grantOf? user))).isEmpty = false :=
      List.isEmpty_eq_false_iff.mpr (mt distinctGrants_eq_nil.mp (grants_ne_nil hadds hbatch))
    rw [herrors, judgeBatch_of_additions rule l user acting hadds hbatch, hmap, hgrants]
    rfl
  · have hsome : (referenceErrors l (requested.map RequestedGrant.toChange)).isEmpty = false :=
      List.isEmpty_eq_false_iff.mpr herrors
    rw [hsome]
    rfl

end PermissionRule

namespace Directory

/-- **Creating is adding to nothing**: for a principal who grants something, a directory is asked
the same in both ways, whatever it leaves unanswered, and what comes of it is the same. -/
theorem run_initial_eq_run_reconcile (d : Directory) (name : String) (p : Policy)
    (user acting : Uuid) {requested : List RequestedGrant} (hne : requested ≠ []) :
    d.run name ((p.rule.initial user (some acting) requested).run' ∅) =
      d.run name (p.reconcile user acting [] (requested.map RequestedGrant.toChange)) := by
  unfold Policy.reconcile
  rw [p.rule.initial_eq_reconcile user acting hne]

/-- What is requested for the example: one entitlement twice, the second time by the identifier of
its account, and another one. -/
def sampleRequested : List RequestedGrant :=
  [⟨"main", "reader"⟩, ⟨"00000000-0000-0000-0000-000000000001", "reader"⟩, ⟨"main", "writer"⟩]

/-- The repetition is dropped, and four questions are asked. -/
theorem run_initial_eq_run_reconcile_sample :
    sampleRequested ≠ [] ∧
      (sample.run "acme" ((Policy.standard.rule.initial 6 (some 5) sampleRequested).run' ∅)).2 =
        .ok (.applied ⟨[⟨6, 1, 2⟩, ⟨6, 1, 3⟩], [⟨6, 1, 2⟩, ⟨6, 1, 3⟩], []⟩) ∧
      (sample.run "acme"
          ((Policy.standard.rule.initial 6 (some 5) sampleRequested).run' ∅)).1.asked =
        [.accountsById, .accountsByName, .rolesByName, .grants] := by
  have hne : sampleRequested ≠ [] := by decide
  rw [run_initial_eq_run_reconcile sample "acme" .standard 6 5 hne]
  exact ⟨hne, by decide +kernel, by decide +kernel⟩

end Directory

end Provisioning
