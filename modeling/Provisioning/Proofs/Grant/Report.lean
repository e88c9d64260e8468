import Provisioning.Proofs.Grant.Stages

/-!
What is said of the changes of a rejected batch.

A batch is rejected with errors. Where references do not exist there is an error for each of these,
in the order of the changes; where changes do not fit there is one for each of these, in the order
in which changes are judged; and where nothing would be left there is one for each removal.
`Tenant.Reports` says so of a verdict: a batch is rejected in such a way with exactly these errors,
and they are the same wherever the verdict gives them.
-/

namespace Provisioning

/-- What a verdict says of the changes. -/
def Reconciliation.errors : Reconciliation → List ChangeError
  | applied _ => []
  | rejected _ errors => errors

/-- The errors that go with each rejection of a batch, other than for want of permission. -/
structure Tenant.Reports (t : Tenant) (user : Uuid) (current : List Grant) (changes : List Change)
    (verdict : Except Failure Reconciliation) : Prop where
  /-- Each account that does not exist and each role that does not exist is reported, change by
  change. -/
  references (reported errors : List ChangeError) :
    verdict = .ok (.rejected (.unknownReferences reported) errors) ↔
      (∃ c ∈ changes, t.Unknown c) ∧ reported = errors ∧ errors = t.missingReferencesOf changes
  /-- Each change that does not fit is reported with what is wrong with it, in the order in which
  changes are judged. -/
  operations (reported errors : List ChangeError) :
    verdict = .ok (.rejected (.invalidOperations reported) errors) ↔
      (∀ c ∈ changes, ¬t.Unknown c) ∧
      (∀ r ∈ t.resolveAll changes, ¬t.MeetsLostRole (current.map Grant.entitlement) r) ∧
      (∃ r ∈ t.resolveAll changes, ¬r.Fits (current.map Grant.entitlement)) ∧
      reported = errors ∧
      ResolvedChange.Complaints (current.map Grant.entitlement)
        (byPriority (t.resolveAll changes)) errors
  /-- Each removal is reported, in the order in which changes are judged. -/
  nothing (whose : Uuid) (errors : List ChangeError) :
    verdict = .ok (.rejected (.leavesNothing whose) errors) ↔
      (∀ c ∈ changes, ¬t.Unknown c) ∧
      (∀ r ∈ t.resolveAll changes, ¬t.MeetsLostRole (current.map Grant.entitlement) r) ∧
      (∀ r ∈ t.resolveAll changes, r.Fits (current.map Grant.entitlement)) ∧
      Drains (current.map Grant.entitlement) (t.resolveAll changes) ∧ whose = user ∧
      errors = ((ChangeOp.inOrder (·.op) changes).filter (·.op != .add)).map
        (·.refuse .wouldRemoveAll)
  /-- What is shown of the verdict are its errors. -/
  shown (done : Reconciliation) : verdict = .ok done → done.toResult.errors = done.errors

section Reports

variable {t : Tenant} {rule : PermissionRule} {user acting : Uuid} {current : List Grant}
  {changes : List Change} {verdict : Except Failure Reconciliation}

lemma Reconciliation.errors_toResult (done : Reconciliation) :
    done.toResult.errors = done.errors := by
  cases done <;> rfl

lemma Tenant.Ends.reports (h : t.Ends rule user acting current changes verdict) :
    t.Reports user current changes verdict where
  references reported errors := by
    constructor
    · rintro rfl
      cases h with | unknown _ h all => exact ⟨h, rfl, all⟩
    · rintro ⟨hunknown, rfl, rfl⟩
      obtain ⟨errors, rfl⟩ := h.stages.unknown.mpr hunknown
      cases h with | unknown _ _ all => rw [all]
  operations reported errors := by
    constructor
    · rintro rfl
      cases h with | misfit _ known found h all => exact ⟨known, found, h, rfl, all⟩
    · rintro ⟨known, found, hmisfit, rfl, hall⟩
      obtain ⟨errors, rfl⟩ := (h.stages.misfit known found).mpr hmisfit
      cases h with | misfit _ _ _ _ all => rw [all.eq hall]
  nothing whose errors := by
    constructor
    · rintro rfl
      cases h with | drained _ known found fits h all => exact ⟨known, found, fits, h, rfl, all⟩
    · rintro ⟨known, found, fits, hdrains, rfl, rfl⟩
      obtain ⟨errors, rfl⟩ := (h.stages.drained known found fits).mpr hdrains
      cases h with | drained _ _ _ _ _ all => rw [all]
  shown done _ := done.errors_toResult

end Reports

end Provisioning
