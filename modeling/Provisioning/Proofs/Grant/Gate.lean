import Provisioning.Proofs.Grant.Stages

/-!
The question of permission.

Permission is asked for the roles of everything that a batch adds or takes away
(`Tenant.changedRoles`), and of everything that a new user is granted; then the verdict depends on
nothing else (`Tenant.Gated`).
-/

namespace Provisioning

open Resolving

/-- The names of the roles of what was added or taken away. -/
def Tenant.changedRoles (t : Tenant) (done : GrantChanges) : SortedSet String :=
  t.roleNames ((done.removed ++ done.added).map (·.role))

section Changed

variable {t : Tenant} {user : Uuid} {current : List Grant} {batch : List ResolvedChange}

/-- The roles that a batch touches are those that are changed. -/
lemma touchedRoles_eq (user : Uuid) (current : List Grant) (batch : List ResolvedChange) :
    t.touchedRoles (current.map Grant.entitlement) batch =
    t.changedRoles (outcomeOf user current (byPriority batch)) := by
  refine SortedSet.ext_mem fun name => ?_
  unfold Tenant.changedRoles outcomeOf
  rw [Tenant.mem_touchedRoles, Tenant.mem_roleNames]
  simp only [List.mem_map, List.mem_append, List.mem_filter, takesAny_byPriority, mem_additions,
    mem_byPriority]
  constructor
  · rintro ⟨r, hr, e, ⟨he, htakes⟩ | hgiven, hrole⟩
    · obtain ⟨g, hg, rfl⟩ := List.mem_map.mp he
      exact ⟨_, ⟨g, Or.inl ⟨hg, List.any_eq_true.mpr ⟨r, hr, htakes⟩⟩, rfl⟩, hrole⟩
    · exact ⟨_, ⟨_, Or.inr ⟨r, hr, e, hgiven, rfl⟩, rfl⟩, hrole⟩
  · rintro ⟨-, ⟨g, ⟨hg, htakes⟩ | ⟨r, hr, e, hgiven, rfl⟩, rfl⟩, hrole⟩
    · obtain ⟨r, hr, htakes⟩ := List.any_eq_true.mp htakes
      exact ⟨r, hr, g.entitlement, Or.inl ⟨List.mem_map_of_mem hg, htakes⟩, hrole⟩
    · exact ⟨r, hr, e, Or.inr hgiven, hrole⟩

lemma byPriority_of_adds (h : ∀ r ∈ batch, r.change.op = .add) : byPriority batch = batch := by
  have hnone : ∀ op, op ≠ .add → batch.filter (·.change.op == op) = [] := fun op hop =>
    List.filter_eq_nil_iff.mpr fun r hr => by simpa [h r hr] using hop.symm
  have hall : batch.filter (·.change.op == .add) = batch :=
    List.filter_eq_self.mpr fun r hr => by simp [h r hr]
  simp [byPriority, ChangeOp.inOrder, ChangeOp.all, hnone, hall]

end Changed

/-! ### First grants -/

section Initial

variable {t : Tenant} {rule : PermissionRule} {user acting : Uuid}
  {requested : List RequestedGrant}

/-- What is requested for a new user is added. -/
lemma Tenant.add_of_mem_resolveAll {r : ResolvedChange}
    (h : r ∈ t.resolveAll (requested.map RequestedGrant.toChange)) :
    r.change.op = .add ∧ ∃ id name, r.role = some (id, name) := by
  obtain ⟨hmem, hr⟩ := Tenant.mem_resolveAll.mp h
  obtain ⟨q, -, hq⟩ := List.mem_map.mp hmem
  have htarget := (Tenant.resolve?_eq_some.mp hr).2.2
  rw [← hq] at htarget ⊢
  obtain ⟨role, -, hrole⟩ := Option.map_eq_some_iff.mp htarget
  exact ⟨rfl, role.id, role.name, hrole.symm⟩

lemma distinctGrants_grantOf? :
    distinctGrants ((t.resolveAll (requested.map RequestedGrant.toChange)).filterMap
      (PermissionRule.grantOf? user)) =
      additions user (t.resolveAll (requested.map RequestedGrant.toChange)) := by
  have hgrant : ∀ r ∈ t.resolveAll (requested.map RequestedGrant.toChange),
      PermissionRule.grantOf? user r = r.given?.map (·.grantTo user) := fun r hr => by
    obtain ⟨hop, id, name, hrole⟩ := Tenant.add_of_mem_resolveAll hr
    simp [PermissionRule.grantOf?, ResolvedChange.given?, hop, hrole, Entitlement.grantTo]
  unfold distinctGrants additions
  rw [List.filterMap_congr hgrant, ← List.map_filterMap, distinctBy_map]
  rfl

lemma ofList_requestedRoles :
    SortedSet.ofList (((t.resolveAll (requested.map RequestedGrant.toChange)).filterMap
      (·.role)).map Prod.snd) =
      t.touchedRoles [] (t.resolveAll (requested.map RequestedGrant.toChange)) := by
  refine SortedSet.ext_mem fun name => ?_
  rw [SortedSet.mem_ofList, Tenant.mem_touchedRoles, List.mem_map]
  simp only [List.mem_filterMap]
  constructor
  · rintro ⟨⟨id, name⟩, ⟨r, hr, hrole⟩, rfl⟩
    obtain ⟨role, hget, hname⟩ := Tenant.role_of_mem_resolveAll hr hrole
    obtain ⟨hop, -⟩ := Tenant.add_of_mem_resolveAll hr
    refine ⟨r, hr, ⟨r.account, id⟩, Or.inr ?_, role, hget, hname⟩
    simp [ResolvedChange.given?, hop, hrole]
  · rintro ⟨r, hr, e, ⟨hmem, -⟩ | hgiven, role, hget, rfl⟩
    · cases hmem
    · obtain ⟨hop, id, name, hrole⟩ := Tenant.add_of_mem_resolveAll hr
      obtain ⟨role', hget', hname⟩ := Tenant.role_of_mem_resolveAll hr hrole
      simp only [ResolvedChange.given?, hop, hrole, Option.some.injEq] at hgiven
      subst hgiven
      refine ⟨(id, name), ⟨r, hr, hrole⟩, ?_⟩
      rw [← hname, Option.some.inj (hget'.symm.trans hget)]

lemma outcomeOf_initial :
    outcomeOf user [] (byPriority (t.resolveAll (requested.map RequestedGrant.toChange))) =
      ⟨additions user (t.resolveAll (requested.map RequestedGrant.toChange)),
        additions user (t.resolveAll (requested.map RequestedGrant.toChange)), []⟩ := by
  have hadd : ∀ r ∈ t.resolveAll (requested.map RequestedGrant.toChange),
      r.given? ≠ none := fun r hr => by
    obtain ⟨hop, id, name, hrole⟩ := Tenant.add_of_mem_resolveAll hr
    simp [ResolvedChange.given?, hop, hrole]
  unfold outcomeOf
  rw [byPriority_of_adds fun r hr => (Tenant.add_of_mem_resolveAll hr).1, carryOut_additions hadd]
  rfl

lemma additions_initial_eq_nil (hknown : ∀ q ∈ requested, ¬t.Unknown q.toChange) :
    additions user (t.resolveAll (requested.map RequestedGrant.toChange)) = [] ↔
      requested = [] := by
  constructor
  · rw [List.eq_nil_iff_forall_not_mem, List.eq_nil_iff_forall_not_mem]
    intro h q hq
    obtain ⟨r, hr⟩ := Option.ne_none_iff_exists'.mp (mt Tenant.resolve?_eq_none.mp (hknown q hq))
    have hmem : r ∈ t.resolveAll (requested.map RequestedGrant.toChange) :=
      List.mem_filterMap.mpr ⟨_, List.mem_map_of_mem hq, hr⟩
    obtain ⟨hop, id, name, hrole⟩ := Tenant.add_of_mem_resolveAll hmem
    refine h _ (mem_additions.mpr ⟨r, hmem, ⟨r.account, id⟩, ?_, rfl⟩)
    simp [ResolvedChange.given?, hop, hrole]
  · rintro rfl
    rfl

/-- First grants that name something that does not exist are refused. -/
lemma PermissionRule.on_initial_of_unknown (rule : PermissionRule) (user : Uuid)
    (acting : Option Uuid) (hd : t.roles.DistinctNames)
    (hunknown : ∃ q ∈ requested, t.Unknown q.toChange) :
    ∃ errors l, on t (rule.initial user acting requested) ∅ =
      .ok (.rejected (.unknownReferences errors) errors, l) := by
  obtain ⟨l, hon, hl⟩ := on_resolveReferences hd (requested.map RequestedGrant.toChange) []
  obtain ⟨q, hq, hqu⟩ := hunknown
  have herrors : (referenceErrors l (requested.map RequestedGrant.toChange)).isEmpty = false :=
    List.isEmpty_eq_false_iff.mpr fun h =>
      hl.referenceErrors_eq_nil.mp h _ (List.mem_map_of_mem hq) hqu
  refine ⟨referenceErrors l (requested.map RequestedGrant.toChange), l, ?_⟩
  unfold initial
  dsimp only
  rw [on_bind_of_ok hon, on_get_bind, herrors]
  rfl

/-- A principal who grants is asked about the roles of all that is granted. -/
lemma PermissionRule.on_initial_of_known (rule : PermissionRule) (user acting : Uuid)
    (hd : t.roles.DistinctNames) (hknown : ∀ q ∈ requested, ¬t.Unknown q.toChange) :
    ∃ l, l.roles.Reflects t.roles ∧ on t (rule.initial user (some acting) requested) ∅ =
      if requested.isEmpty then .ok (.rejected (.leavesNothing user) [], l)
      else
        let done := outcomeOf user []
          (byPriority (t.resolveAll (requested.map RequestedGrant.toChange)))
        on t (rule.permit acting (t.changedRoles done) (requested.map RequestedGrant.toChange)
          done) l := by
  obtain ⟨l, hon, hl⟩ := on_resolveReferences hd (requested.map RequestedGrant.toChange) []
  have hknown' : ∀ c ∈ requested.map RequestedGrant.toChange, ¬t.Unknown c :=
    List.forall_mem_map.mpr hknown
  have herrors := hl.referenceErrors_eq_nil.mpr hknown'
  have hempty : (additions user
      (t.resolveAll (requested.map RequestedGrant.toChange))).isEmpty = requested.isEmpty := by
    rw [Bool.eq_iff_iff, List.isEmpty_iff, List.isEmpty_iff, additions_initial_eq_nil hknown]
  refine ⟨l, hl.roles, ?_⟩
  unfold initial
  dsimp only
  rw [on_bind_of_ok hon, on_get_bind, herrors, hl.resolvedChanges_eq, distinctGrants_grantOf?,
    ofList_requestedRoles, hempty, ← touchedRoles_eq user [],
    List.map_nil, outcomeOf_initial]
  by_cases hne : requested.isEmpty
  · rw [if_pos hne, hne]
    rfl
  · rw [if_neg hne, Bool.eq_false_iff.mpr hne, List.isEmpty_nil, Bool.not_true,
      if_neg Bool.false_ne_true, if_neg Bool.false_ne_true]

end Initial

/-! ### The verdict of permission -/

/-- A batch that does something is applied if its principal may touch the roles that it changes;
otherwise each request is refused. -/
structure Tenant.Gated (t : Tenant) (rule : PermissionRule) (acting : Uuid)
    (requests : List Change) (done : GrantChanges)
    (verdict : Except Failure Reconciliation) : Prop where
  applied : verdict = .ok (.applied done) ↔ t.MayTouch rule acting (t.changedRoles done)
  denied : verdict = .ok (.rejected (.notPermitted acting (t.changedRoles done).toList)
    (requests.map (·.refuse .permissionDenied))) ↔ ¬t.MayTouch rule acting (t.changedRoles done)

section Gate

variable {t : Tenant} {rule : PermissionRule} {user acting : Uuid} {current : List Grant}
  {changes : List Change} {requested : List RequestedGrant}

lemma Tenant.gated_of_cases {requests : List Change} {done : GrantChanges}
    {verdict : Except Failure Reconciliation}
    (hmay : t.MayTouch rule acting (t.changedRoles done) → verdict = .ok (.applied done))
    (hnot : ¬t.MayTouch rule acting (t.changedRoles done) →
      verdict = .ok (.rejected (.notPermitted acting (t.changedRoles done).toList)
        (requests.map (·.refuse .permissionDenied)))) :
    t.Gated rule acting requests done verdict := by
  by_cases h : t.MayTouch rule acting (t.changedRoles done)
  · rw [hmay h]
    exact ⟨iff_of_true rfl h, iff_of_false (fun hv => by cases hv) (not_not_intro h)⟩
  · rw [hnot h]
    exact ⟨iff_of_false (fun hv => by cases hv) h, iff_of_true rfl h⟩

lemma Tenant.gated_reconcile (t : Tenant) (rule : PermissionRule) (user : Uuid)
    (hd : t.roles.DistinctNames) (hne : changes ≠ [])
    (hfound : t.lostRoles (t.heldRoleIds acting) = [])
    (hpasses : t.Passes ((distinctGrants current).map Grant.entitlement) changes) :
    t.Gated rule acting (ChangeOp.inOrder (·.op) changes)
      (outcomeOf user (distinctGrants current) (byPriority (t.resolveAll changes)))
      (((rule.reconcile user acting current changes).run' ∅).on t) := by
  rcases (t.ends_reconcile rule user acting current hd hne).of_passes
    hpasses with ⟨hlost, -⟩ | ⟨-, hnot, hv⟩ | ⟨-, hmay, hv⟩
  · exact absurd hfound hlost
  · rw [touchedRoles_eq user] at hnot hv
    exact gated_of_cases (fun hmay => absurd hmay hnot) fun _ => hv
  · rw [touchedRoles_eq user] at hmay
    exact gated_of_cases (fun _ => hv) fun hnot => absurd hmay hnot

lemma Tenant.gated_initial (t : Tenant) (rule : PermissionRule) (user : Uuid)
    (hd : t.roles.DistinctNames) (hne : requested ≠ [])
    (hfound : t.lostRoles (t.heldRoleIds acting) = [])
    (hknown : ∀ q ∈ requested, ¬t.Unknown q.toChange) :
    t.Gated rule acting (requested.map RequestedGrant.toChange)
      (outcomeOf user [] (byPriority (t.resolveAll (requested.map RequestedGrant.toChange))))
      (((rule.initial user (some acting) requested).run' ∅).on t) := by
  obtain ⟨l, hl, hon⟩ := rule.on_initial_of_known user acting hd hknown
  rw [if_neg (by simpa using hne)] at hon
  have hnamed : ∀ name ∈ t.changedRoles (outcomeOf user []
      (byPriority (t.resolveAll (requested.map RequestedGrant.toChange)))),
      (t.roles.named? name).isSome := fun name hname => by
    rw [← touchedRoles_eq] at hname
    exact isSome_named?_of_mem_touchedRoles hname
  obtain ⟨l', hmay, hnot⟩ := rule.on_permit acting hl hd
    (requested.map RequestedGrant.toChange) (outcomeOf user []
      (byPriority (t.resolveAll (requested.map RequestedGrant.toChange)))) hfound hnamed
  rw [on_run', hon]
  refine gated_of_cases (fun h => ?_) fun h => ?_
  · rw [hmay h]
    rfl
  · rw [hnot h]
    rfl

/-- A batch that was applied passed every stage, and its principal may touch what it changed. -/
lemma Tenant.applied_reconcile (hd : t.roles.DistinctNames) (hne : changes ≠ [])
    {done : GrantChanges}
    (h : ((rule.reconcile user acting current changes).run' ∅).on t = .ok (.applied done)) :
    t.Passes ((distinctGrants current).map Grant.entitlement) changes ∧
      t.MayTouch rule acting (t.changedRoles done) ∧
      done = outcomeOf user (distinctGrants current) (byPriority (t.resolveAll changes)) := by
  have hends := t.ends_reconcile rule user acting current hd hne
  rw [h] at hends
  obtain ⟨passes, -, hmay, rfl⟩ := (hends.stages.applied done).mp rfl
  exact ⟨passes, touchedRoles_eq user _ _ ▸ hmay, rfl⟩

/-- First grants that were applied are those requested, and their principal may touch the roles. -/
lemma Tenant.applied_initial (hd : t.roles.DistinctNames) {done : GrantChanges}
    (h : ((rule.initial user (some acting) requested).run' ∅).on t = .ok (.applied done)) :
    t.MayTouch rule acting (t.changedRoles done) ∧
      done = outcomeOf user []
        (byPriority (t.resolveAll (requested.map RequestedGrant.toChange))) := by
  rw [on_run'] at h
  by_cases hunknown : ∃ q ∈ requested, t.Unknown q.toChange
  · obtain ⟨errors, l, hon⟩ := rule.on_initial_of_unknown user (some acting) hd hunknown
    rw [hon] at h
    cases h
  have hknown : ∀ q ∈ requested, ¬t.Unknown q.toChange := fun q hq hu => hunknown ⟨q, hq, hu⟩
  obtain ⟨l, hl, hon⟩ := rule.on_initial_of_known user acting hd hknown
  by_cases hne : requested = []
  · rw [hon, if_pos (by simpa using hne)] at h
    cases h
  by_cases hfound : t.lostRoles (t.heldRoleIds acting) = []
  · have hgated := t.gated_initial rule user hd hne hfound hknown
    rw [on_run', h] at hgated
    by_cases hmay : t.MayTouch rule acting (t.changedRoles (outcomeOf user []
        (byPriority (t.resolveAll (requested.map RequestedGrant.toChange)))))
    · obtain rfl : done = _ := by simpa using hgated.applied.mpr hmay
      exact ⟨hmay, rfl⟩
    · cases hgated.denied.mpr hmay
  · rw [hon, if_neg (by simpa using hne)] at h
    dsimp only at h
    rw [rule.on_permit_of_lost acting hl _ _ _ hfound] at h
    cases h

/-- **The question of permission** is the last one, and it is asked for the roles of exactly what
changes: for a batch that passes the stages before it, and for the first grants of a user. -/
theorem Directory.gated (d : Directory) (name : String) (p : Policy) (user acting : Uuid)
    (hd : d.failing = []) (hnames : (d.tenant name).roles.DistinctNames)
    (hfound : (d.tenant name).lostRoles ((d.tenant name).heldRoleIds acting) = []) :
    (∀ (current : List Grant) (changes : List Change), changes ≠ [] →
      (d.tenant name).Passes ((distinctGrants current).map Grant.entitlement) changes →
      (d.tenant name).Gated p.rule acting (ChangeOp.inOrder (·.op) changes)
        (outcomeOf user (distinctGrants current)
          (byPriority ((d.tenant name).resolveAll changes)))
        (d.run name (p.reconcile user acting current changes)).2) ∧
    ∀ requested : List RequestedGrant, requested ≠ [] →
      (∀ q ∈ requested, ¬(d.tenant name).Unknown q.toChange) →
      (d.tenant name).Gated p.rule acting (requested.map RequestedGrant.toChange)
        (outcomeOf user [] (byPriority
          ((d.tenant name).resolveAll (requested.map RequestedGrant.toChange))))
        (d.run name ((p.rule.initial user (some acting) requested).run' ∅)).2 := by
  refine ⟨fun current changes hne hpasses => ?_, fun requested hne hknown => ?_⟩
  · rw [Directory.run_of_answering hd]
    exact Tenant.gated_reconcile _ _ _ hnames hne hfound hpasses
  · rw [Directory.run_of_answering hd]
    exact Tenant.gated_initial _ _ _ hnames hne hfound hknown

/-- Who only reads may not replace a role that writes. -/
theorem Directory.gated_sample :
    sample.failing = [] ∧ (sample.tenant "acme").roles.DistinctNames ∧
      (sample.tenant "acme").lostRoles ((sample.tenant "acme").heldRoleIds 4) = [] ∧
      (sample.tenant "acme").Passes [⟨1, 3⟩] [.add "main" "reader", .removeAll "main"] ∧
      (sample.run "acme" (Policy.standard.reconcile 6 4 [⟨6, 1, 3⟩]
        [.add "main" "reader", .removeAll "main"])).2 =
        .ok (.rejected (.notPermitted 4 ["reader", "writer"])
          [(Change.removeAll "main").refuse .permissionDenied,
            (Change.add "main" "reader").refuse .permissionDenied]) := by
  have hgated := Directory.gated sample "acme" Policy.standard 6 4 rfl (by decide) (by decide)
  have hpasses : (sample.tenant "acme").Passes [⟨1, 3⟩]
      [.add "main" "reader", .removeAll "main"] := by decide
  refine ⟨rfl, by decide, by decide, hpasses, ?_⟩
  exact (hgated.1 [⟨6, 1, 3⟩] [.add "main" "reader", .removeAll "main"] (by decide)
    hpasses).denied.mpr (by decide)

end Gate

end Provisioning
