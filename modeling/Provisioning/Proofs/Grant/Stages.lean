import Provisioning.Proofs.Grant.Verdict
import Provisioning.Proofs.Session

/-!
What the verdict on a batch is.

The first stage that does not let a batch pass gives the verdict on it; a batch that passes them all
is applied or refused by permission. `Tenant.Ends` has one case for each way to end, and
`Tenant.Stages` says of each verdict when it is passed.
-/

namespace Provisioning

open Resolving

/-- How the verdict on a batch comes about: the first stage that does not let the batch pass, or
permission. -/
inductive Tenant.Ends (t : Tenant) (rule : PermissionRule) (user acting : Uuid)
    (current : List Grant) (changes : List Change) : Except Failure Reconciliation → Prop where
  | unknown (errors : List ChangeError) (h : ∃ c ∈ changes, t.Unknown c)
    (all : errors = t.missingReferencesOf changes) :
    Ends t rule user acting current changes (.ok (.rejected (.unknownReferences errors) errors))
  | lost (e : Entitlement) (known : ∀ c ∈ changes, ¬t.Unknown c)
    (h : ∃ r ∈ t.resolveAll changes, t.MeetsLostRole (current.map Grant.entitlement) r)
    (mem : e ∈ current.map Grant.entitlement) (missing : t.roles.get? e.role = none) :
    Ends t rule user acting current changes (.error (.unresolvedRoles user [e.role.toText]))
  | misfit (errors : List ChangeError) (known : ∀ c ∈ changes, ¬t.Unknown c)
    (found : ∀ r ∈ t.resolveAll changes, ¬t.MeetsLostRole (current.map Grant.entitlement) r)
    (h : ∃ r ∈ t.resolveAll changes, ¬r.Fits (current.map Grant.entitlement))
    (all : ResolvedChange.Complaints (current.map Grant.entitlement)
      (byPriority (t.resolveAll changes)) errors) :
    Ends t rule user acting current changes (.ok (.rejected (.invalidOperations errors) errors))
  | drained (errors : List ChangeError) (known : ∀ c ∈ changes, ¬t.Unknown c)
    (found : ∀ r ∈ t.resolveAll changes, ¬t.MeetsLostRole (current.map Grant.entitlement) r)
    (fits : ∀ r ∈ t.resolveAll changes, r.Fits (current.map Grant.entitlement))
    (h : Drains (current.map Grant.entitlement) (t.resolveAll changes))
    (all : errors = ((ChangeOp.inOrder (·.op) changes).filter (·.op != .add)).map
      (·.refuse .wouldRemoveAll)) :
    Ends t rule user acting current changes (.ok (.rejected (.leavesNothing user) errors))
  | principalLost (passes : t.Passes (current.map Grant.entitlement) changes)
    (h : t.lostRoles (t.heldRoleIds acting) ≠ []) :
    Ends t rule user acting current changes
      (.error (.unresolvedRoles acting ((t.lostRoles (t.heldRoleIds acting)).map Uuid.toText)))
  | denied (passes : t.Passes (current.map Grant.entitlement) changes)
    (found : t.lostRoles (t.heldRoleIds acting) = [])
    (h : ¬t.MayTouch rule acting
      (t.touchedRoles (current.map Grant.entitlement) (t.resolveAll changes))) :
    Ends t rule user acting current changes
      (.ok (.rejected (.notPermitted acting
        (t.touchedRoles (current.map Grant.entitlement) (t.resolveAll changes)).toList)
        ((ChangeOp.inOrder (·.op) changes).map (·.refuse .permissionDenied))))
  | applied (passes : t.Passes (current.map Grant.entitlement) changes)
    (found : t.lostRoles (t.heldRoleIds acting) = [])
    (h : t.MayTouch rule acting
      (t.touchedRoles (current.map Grant.entitlement) (t.resolveAll changes))) :
    Ends t rule user acting current changes
      (.ok (.applied (outcomeOf user current (byPriority (t.resolveAll changes)))))

section Stages

variable {t : Tenant} {rule : PermissionRule} {user acting : Uuid} {current : List Grant}
  {changes : List Change}

/-- Every role that a batch touches is named by its name. -/
lemma Tenant.isSome_named?_of_mem_touchedRoles {held : List Entitlement}
    {batch : List ResolvedChange} {name : String} (h : name ∈ t.touchedRoles held batch) :
    (t.roles.named? name).isSome := by
  obtain ⟨r, hr, e, ht, role, hget, rfl⟩ := Tenant.mem_touchedRoles.mp h
  exact Catalogue.named?_isSome.mpr ⟨role, (Catalogue.mem_values_of_get? hget).1, rfl⟩

/-- Every batch ends in one of these ways, where every question is answered. -/
theorem Tenant.ends_reconcile (t : Tenant) (rule : PermissionRule) (user acting : Uuid)
    (current : List Grant) (hd : t.roles.DistinctNames) (hne : changes ≠ []) :
    t.Ends rule user acting (distinctGrants current) changes
      (((rule.reconcile user acting current changes).run' ∅).on t) := by
  rw [on_run']
  by_cases hunknown : ∃ c ∈ changes, t.Unknown c
  · obtain ⟨l, hon⟩ := rule.on_reconcile_of_unknown user acting current hd hunknown
    rw [hon]
    exact .unknown _ hunknown rfl
  have hknown : ∀ c ∈ changes, ¬t.Unknown c := fun c hc hu => hunknown ⟨c, hc, hu⟩
  obtain ⟨l, hl, hon⟩ := rule.on_reconcile_of_known user acting current hd hne hknown
  rw [hon]
  by_cases hlost : ∃ r ∈ t.resolveAll changes,
      t.MeetsLostRole ((distinctGrants current).map Grant.entitlement) r
  · obtain ⟨e, he, hnone, herr⟩ := rule.on_judgeBatch_of_lost user acting hl hlost
    rw [herr]
    exact .lost e hknown hlost he hnone
  have hfound : ∀ r ∈ t.resolveAll changes,
      ¬t.MeetsLostRole ((distinctGrants current).map Grant.entitlement) r :=
    fun r hr hm => hlost ⟨r, hr, hm⟩
  by_cases hmisfit : ∃ r ∈ t.resolveAll changes,
      ¬r.Fits ((distinctGrants current).map Grant.entitlement)
  · obtain ⟨errors, hall, herr⟩ := rule.on_judgeBatch_of_misfit user acting hl hfound hmisfit
    rw [herr]
    exact .misfit errors hknown hfound hmisfit hall
  have hfits : ∀ r ∈ t.resolveAll changes,
      r.Fits ((distinctGrants current).map Grant.entitlement) :=
    fun r hr => by_contra fun hf => hmisfit ⟨r, hr, hf⟩
  by_cases hdrains : Drains ((distinctGrants current).map Grant.entitlement) (t.resolveAll changes)
  · rw [rule.on_judgeBatch_of_drains user acting hl hfound hfits hdrains]
    refine .drained _ hknown hfound hfits hdrains ?_
    rw [← map_change_byPriority hknown, List.filter_map, List.map_map]
    rfl
  have hpasses : t.Passes ((distinctGrants current).map Grant.entitlement) changes :=
    ⟨hknown, hfound, hfits, hdrains⟩
  rw [rule.on_judgeBatch_of_passes user acting hl hfound hfits
    (Tenant.resolveAll_ne_nil hknown hne) hdrains, map_change_byPriority hknown]
  by_cases hprincipal : t.lostRoles (t.heldRoleIds acting) = []
  · obtain ⟨l', hmay, hdenied⟩ := rule.on_permit acting hl.roles hd
      (ChangeOp.inOrder (·.op) changes)
      (outcomeOf user (distinctGrants current) (byPriority (t.resolveAll changes))) hprincipal
      fun name => Tenant.isSome_named?_of_mem_touchedRoles
    by_cases hm : t.MayTouch rule acting (t.touchedRoles
        ((distinctGrants current).map Grant.entitlement) (t.resolveAll changes))
    · rw [hmay hm]
      exact .applied hpasses hprincipal hm
    · rw [hdenied hm]
      exact .denied hpasses hprincipal hm
  · rw [rule.on_permit_of_lost acting hl.roles _ _ _ hprincipal]
    exact .principalLost hpasses hprincipal

/-- A batch that passes the stages before permission ends there. -/
lemma Tenant.Ends.of_passes {verdict : Except Failure Reconciliation}
    (h : t.Ends rule user acting current changes verdict)
    (passes : t.Passes (current.map Grant.entitlement) changes) :
    let roles := t.touchedRoles (current.map Grant.entitlement) (t.resolveAll changes)
    t.lostRoles (t.heldRoleIds acting) ≠ [] ∧ verdict =
        .error (.unresolvedRoles acting ((t.lostRoles (t.heldRoleIds acting)).map Uuid.toText)) ∨
      t.lostRoles (t.heldRoleIds acting) = [] ∧ ¬t.MayTouch rule acting roles ∧ verdict =
        .ok (.rejected (.notPermitted acting roles.toList)
          ((ChangeOp.inOrder (·.op) changes).map (·.refuse .permissionDenied))) ∨
      t.lostRoles (t.heldRoleIds acting) = [] ∧ t.MayTouch rule acting roles ∧ verdict =
        .ok (.applied (outcomeOf user current (byPriority (t.resolveAll changes)))) := by
  cases h with
  | unknown errors h =>
    obtain ⟨c, hc, hcu⟩ := h
    exact absurd hcu (passes.known c hc)
  | lost e _ h =>
    obtain ⟨r, hr, hrl⟩ := h
    exact absurd hrl (passes.found r hr)
  | misfit _ _ _ h =>
    obtain ⟨r, hr, hrf⟩ := h
    exact absurd (passes.fits r hr) hrf
  | drained _ _ _ _ h => exact absurd h passes.keeps
  | principalLost _ h => exact Or.inl ⟨h, rfl⟩
  | denied _ found h => exact Or.inr (Or.inl ⟨found, h, rfl⟩)
  | applied _ found h => exact Or.inr (Or.inr ⟨found, h, rfl⟩)

/-- When each verdict is passed on a batch, each stage for the batches that pass those before it. -/
structure Tenant.Stages (t : Tenant) (rule : PermissionRule) (user acting : Uuid)
    (current : List Grant) (changes : List Change) (verdict : Except Failure Reconciliation) :
    Prop where
  /-- First, what the batch names has to exist. -/
  unknown : (∃ errors, verdict = .ok (.rejected (.unknownReferences errors) errors)) ↔
    ∃ c ∈ changes, t.Unknown c
  /-- Then, the roles on an account from which all are taken have to exist. -/
  lost : (∀ c ∈ changes, ¬t.Unknown c) →
    (∃ r ∈ t.resolveAll changes, t.MeetsLostRole (current.map Grant.entitlement) r) →
    ∃ e ∈ current.map Grant.entitlement, t.roles.get? e.role = none ∧
      verdict = .error (.unresolvedRoles user [e.role.toText])
  /-- Then, every change has to fit what is held before the batch. -/
  misfit : (∀ c ∈ changes, ¬t.Unknown c) →
    (∀ r ∈ t.resolveAll changes, ¬t.MeetsLostRole (current.map Grant.entitlement) r) →
    ((∃ errors, verdict = .ok (.rejected (.invalidOperations errors) errors)) ↔
      ∃ r ∈ t.resolveAll changes, ¬r.Fits (current.map Grant.entitlement))
  /-- Then, something has to be left, unless nothing was held. -/
  drained : (∀ c ∈ changes, ¬t.Unknown c) →
    (∀ r ∈ t.resolveAll changes, ¬t.MeetsLostRole (current.map Grant.entitlement) r) →
    (∀ r ∈ t.resolveAll changes, r.Fits (current.map Grant.entitlement)) →
    ((∃ errors, verdict = .ok (.rejected (.leavesNothing user) errors)) ↔
      Drains (current.map Grant.entitlement) (t.resolveAll changes))
  /-- Then, the roles of the acting principal have to exist. -/
  principalLost : t.Passes (current.map Grant.entitlement) changes →
    t.lostRoles (t.heldRoleIds acting) ≠ [] →
    verdict =
      .error (.unresolvedRoles acting ((t.lostRoles (t.heldRoleIds acting)).map Uuid.toText))
  /-- Then, the principal has to be allowed to touch the roles. -/
  denied : t.Passes (current.map Grant.entitlement) changes →
    t.lostRoles (t.heldRoleIds acting) = [] →
    (verdict = .ok (.rejected (.notPermitted acting
        (t.touchedRoles (current.map Grant.entitlement) (t.resolveAll changes)).toList)
        ((ChangeOp.inOrder (·.op) changes).map (·.refuse .permissionDenied))) ↔
      ¬t.MayTouch rule acting
        (t.touchedRoles (current.map Grant.entitlement) (t.resolveAll changes)))
  /-- A batch is applied exactly if it passes, and does what its changes do one after the other. -/
  applied (done : GrantChanges) : verdict = .ok (.applied done) ↔
    t.Passes (current.map Grant.entitlement) changes ∧
      t.lostRoles (t.heldRoleIds acting) = [] ∧
      t.MayTouch rule acting
        (t.touchedRoles (current.map Grant.entitlement) (t.resolveAll changes)) ∧
      done = outcomeOf user current (byPriority (t.resolveAll changes))
  /-- Nothing is left by the batches that would leave nothing if their changes were carried out. -/
  drains_iff : (∀ r ∈ t.resolveAll changes, r.Fits (current.map Grant.entitlement)) →
    (Drains (current.map Grant.entitlement) (t.resolveAll changes) ↔
      current ≠ [] ∧ carryOut user (byPriority (t.resolveAll changes)) current = [])
  /-- To carry out changes that fit is to drop what is taken away and to append what is given. -/
  carryOut_eq : (∀ r ∈ t.resolveAll changes, r.Fits (current.map Grant.entitlement)) →
    carryOut user (byPriority (t.resolveAll changes)) current =
      (current.filter fun g => !takesAny (t.resolveAll changes) g.entitlement) ++
        additions user (byPriority (t.resolveAll changes))

lemma Tenant.Ends.stages {verdict : Except Failure Reconciliation}
    (h : t.Ends rule user acting current changes verdict) :
    t.Stages rule user acting current changes verdict where
  unknown := by
    constructor
    · rintro ⟨errors, rfl⟩
      cases h with | unknown _ h => exact h
    · rintro ⟨c, hc, hcu⟩
      cases h with
      | unknown errors => exact ⟨errors, rfl⟩
      | lost _ known => exact absurd hcu (known c hc)
      | misfit _ known => exact absurd hcu (known c hc)
      | drained _ known => exact absurd hcu (known c hc)
      | _ passes => exact absurd hcu (passes.known c hc)
  lost known := by
    rintro ⟨r, hr, hrl⟩
    cases h with
    | unknown errors h =>
      obtain ⟨c, hc, hcu⟩ := h
      exact absurd hcu (known c hc)
    | lost e _ _ mem missing => exact ⟨e, mem, missing, rfl⟩
    | misfit _ _ found => exact absurd hrl (found r hr)
    | drained _ _ found => exact absurd hrl (found r hr)
    | _ passes => exact absurd hrl (passes.found r hr)
  misfit known found := by
    constructor
    · rintro ⟨errors, rfl⟩
      cases h with | misfit _ _ _ h => exact h
    · rintro ⟨r, hr, hrf⟩
      cases h with
      | unknown errors h =>
        obtain ⟨c, hc, hcu⟩ := h
        exact absurd hcu (known c hc)
      | lost e _ h =>
        obtain ⟨r', hr', hrl⟩ := h
        exact absurd hrl (found r' hr')
      | misfit errors => exact ⟨errors, rfl⟩
      | drained _ _ _ fits => exact absurd (fits r hr) hrf
      | _ passes => exact absurd (passes.fits r hr) hrf
  drained known found fits := by
    constructor
    · rintro ⟨errors, rfl⟩
      cases h with | drained _ _ _ _ h => exact h
    · intro hdrains
      cases h with
      | unknown errors h =>
        obtain ⟨c, hc, hcu⟩ := h
        exact absurd hcu (known c hc)
      | lost e _ h =>
        obtain ⟨r', hr', hrl⟩ := h
        exact absurd hrl (found r' hr')
      | misfit _ _ _ h =>
        obtain ⟨r, hr, hrf⟩ := h
        exact absurd (fits r hr) hrf
      | drained errors => exact ⟨errors, rfl⟩
      | _ passes => exact absurd hdrains passes.keeps
  principalLost passes hlost := by
    rcases h.of_passes passes with ⟨-, hv⟩ | ⟨hnil, -⟩ | ⟨hnil, -⟩
    · exact hv
    · exact absurd hnil hlost
    · exact absurd hnil hlost
  denied passes hfound := by
    rcases h.of_passes passes with ⟨hlost, -⟩ | ⟨-, hmay, rfl⟩ | ⟨-, hmay, rfl⟩
    · exact absurd hfound hlost
    · exact iff_of_true rfl hmay
    · exact iff_of_false (fun hv => by cases hv) (not_not_intro hmay)
  applied done := by
    constructor
    · rintro rfl
      cases h with | applied passes found h => exact ⟨passes, found, h, rfl⟩
    · rintro ⟨passes, hfound, hmay, rfl⟩
      rcases h.of_passes passes with ⟨hlost, -⟩ | ⟨-, hnot, -⟩ | ⟨-, -, hv⟩
      · exact absurd hfound hlost
      · exact absurd hmay hnot
      · exact hv
  drains_iff fits := by
    rw [carryOut_eq_nil user fits]
    unfold Drains
    rw [ne_eq, List.map_eq_nil_iff]
  carryOut_eq := carryOut_byPriority

/-- **The verdict on a batch**, stage by stage, by a directory that answers every question. -/
theorem Directory.stages_reconcile (d : Directory) (name : String) (p : Policy)
    (user acting : Uuid) (current : List Grant) (changes : List Change) (hd : d.failing = [])
    (hnames : (d.tenant name).roles.DistinctNames) (hne : changes ≠ []) :
    (d.tenant name).Stages p.rule user acting (distinctGrants current) changes
      (d.run name (p.reconcile user acting current changes)).2 := by
  rw [Directory.run_of_answering hd]
  exact ((d.tenant name).ends_reconcile p.rule user acting current hnames hne).stages

/-- A batch that replaces one role by another, where the grant before it is met twice. -/
theorem Directory.stages_reconcile_sample :
    sample.failing = [] ∧ (sample.tenant "acme").roles.DistinctNames ∧
      [Change.add "main" "reader", .removeOne "main" "writer"] ≠ [] ∧
      (sample.tenant "acme").Stages Policy.standard.rule 6 5
        (distinctGrants [⟨6, 1, 3⟩, ⟨6, 1, 3⟩])
        [.add "main" "reader", .removeOne "main" "writer"]
        (.ok (.applied ⟨[⟨6, 1, 2⟩], [⟨6, 1, 2⟩], [⟨6, 1, 3⟩]⟩)) := by
  have hrun : (sample.run "acme" (Policy.standard.reconcile 6 5 [⟨6, 1, 3⟩, ⟨6, 1, 3⟩]
      [.add "main" "reader", .removeOne "main" "writer"])).2 =
      .ok (.applied ⟨[⟨6, 1, 2⟩], [⟨6, 1, 2⟩], [⟨6, 1, 3⟩]⟩) := by decide
  refine ⟨rfl, by decide, by decide, ?_⟩
  rw [← hrun]
  exact Directory.stages_reconcile sample "acme" Policy.standard 6 5 _ _ rfl (by decide)
    (by decide)

end Stages

end Provisioning
