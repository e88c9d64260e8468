import Provisioning.Policy
import Provisioning.Request

/-!
Validating attributes, changing grants, creating and changing users, and changing the schema.

Every operation is a session: it asks the directory of one tenant what it needs to know and changes
nothing. What follows from its result is stored by whoever called it.
-/

namespace Provisioning

def loadSchema : Session Schema := do
  let definitions ← Session.query .definitions
  Session.ofExcept ((Schema.ofDefinitions definitions).mapError .invalidSchema)

/-- Which of the probed values are taken; no probes need no question. -/
def lookUpTaken (probes : List Probe) (except : Option Uuid) : Session (SortedSet Uuid) :=
  if probes.isEmpty then pure ∅ else Session.query (.taken probes except)

/-- Adds or replaces a dynamic attribute. Returns all definitions as they are then. -/
def defineAttribute (d : AttributeDefinition) : Session (List AttributeDefinition) := do
  let schema ← loadSchema
  let (_, schema) ← Session.ofExcept ((schema.define d).mapError .invalidSchema)
  return schema.definitions

/-- Drops a dynamic attribute. Returns its definition, and those that remain. -/
def retireAttribute (name : String) : Session (AttributeDefinition × List AttributeDefinition) := do
  let schema ← loadSchema
  let (retired, schema) ← Session.ofExcept ((schema.retire name).mapError .invalidSchema)
  return (retired, schema.definitions)

namespace Policy

def validateAttributes (p : Policy) (proposed : SortedMap String Json) (state : RecordState) :
    Session Validation := do
  let schema ← loadSchema
  let check := schema.check p.enforceReadOnly state proposed
  let taken ← lookUpTaken check.probes state.ownUser
  return check.finish taken

/-- Passes a verdict on changes to given grants. -/
def reconcile (p : Policy) (user acting : Uuid) (current : List Grant) (changes : List Change) :
    Session Reconciliation :=
  (p.rule.reconcile user acting current changes).run' ∅

/-- Passes a verdict on changes to the grants that a user has. -/
def associate (p : Policy) (user acting : Uuid) (changes : List Change) :
    Session Reconciliation := do
  let current ← Session.query (.grants user)
  p.reconcile user acting current changes

/-- The grants for a new user: the requested ones, or else the default. -/
def requestedGrants (p : Policy) (requested : List RequestedGrant) : List RequestedGrant :=
  if requested.isEmpty then p.defaultGrant.toList else requested

/-- Judges a request to create a user. -/
def createUser (p : Policy) (r : CreateRequest) : Session Outcome := do
  let attributes ← p.validateAttributes r.attributes .new
  let grants ← (p.rule.initial r.user r.acting (p.requestedGrants r.grants)).run' ∅
  return ⟨r.user, some attributes, some grants⟩

/-- The half of a request to change a user that is about attributes. -/
def patchAttributes (p : Policy) (r : PatchRequest) : Session (Option Validation) :=
  match r.attributes with
  | none => pure none
  | some proposed => do
    let validation ← p.validateAttributes proposed (.existing r.user)
    return some validation

/-- The half of a request to change a user that is about grants. -/
def patchGrants (p : Policy) (r : PatchRequest) : Session (Option Reconciliation) :=
  if r.changes.isEmpty then pure none
  else do
    let reconciliation ← p.associate r.user r.acting r.changes
    return some reconciliation

/-- Judges a request to change a user. -/
def patchUser (p : Policy) (r : PatchRequest) : Session Outcome := do
  let attributes ← p.patchAttributes r
  let grants ← p.patchGrants r
  return ⟨r.user, attributes, grants⟩

end Policy

end Provisioning
