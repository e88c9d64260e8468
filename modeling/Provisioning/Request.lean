import Provisioning.Grant.Reconcile
import Provisioning.Schema.Validation

/-!
Requests about users, and their outcomes.

A request can have a half about attributes and a half about grants. Both are judged on their own;
what is to be stored follows from the outcome only if both halves were accepted.
-/

namespace Provisioning

structure CreateRequest where
  user : Uuid
  attributes : SortedMap String Json
  grants : List RequestedGrant
  /-- Who creates the user; nobody's permission is asked for if this is missing. -/
  acting : Option Uuid

structure PatchRequest where
  user : Uuid
  acting : Uuid
  /-- New values; null removes a value. -/
  attributes : Option (SortedMap String Json)
  changes : List Change

/-- What became of a request. -/
structure Outcome where
  user : Uuid
  attributes : Option Validation
  grants : Option Reconciliation

/-- An outcome as it is shown. -/
structure GrantsResult where
  ok : Bool
  newGrants : List Entitlement
  errors : List ChangeError
  rejection : Option RejectionKind
  deriving DecidableEq

/-- An outcome as it is shown. -/
structure OutcomeResult where
  ok : Bool
  user : Uuid
  attributes : Option ValidationResult
  grants : Option GrantsResult
  deriving DecidableEq

/-- A verdict on grants as it is shown. -/
def Reconciliation.toResult : Reconciliation → GrantsResult
  | .applied changes => ⟨true, changes.grants.map Grant.entitlement, [], none⟩
  | .rejected rejection errors => ⟨false, [], errors, some rejection.kind⟩

namespace Outcome

/-- Whether every half of the request was accepted. -/
def isOk (o : Outcome) : Bool :=
  o.attributes.all (·.result.ok) && o.grants.all Reconciliation.isApplied

/-- What is wrong with the attributes. -/
def violations (o : Outcome) : List Violation :=
  match o.attributes with
  | some v => v.result.violations
  | none => []

def rejection? (o : Outcome) : Option Rejection := o.grants.bind Reconciliation.rejection?

def rows (o : Outcome) : List ValueRow :=
  if o.isOk then (o.attributes.map fun v => v.rows o.user).getD [] else []

/-- The attributes whose values are to be removed. -/
def cleared (o : Outcome) : List Uuid :=
  if o.isOk then (o.attributes.map Validation.cleared).getD [] else []

/-- The grants to be stored, if they changed. -/
def newGrants? (o : Outcome) : Option (List Grant) :=
  if o.isOk then o.grants.bind Reconciliation.grants? else none

/-- An outcome as it is shown. -/
def toResult (o : Outcome) : OutcomeResult :=
  ⟨o.isOk, o.user, o.attributes.map (·.result), o.grants.map Reconciliation.toResult⟩

end Outcome

end Provisioning
