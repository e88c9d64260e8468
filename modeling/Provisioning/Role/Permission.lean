import Provisioning.Directory.Lookup

/-!
Whether a principal may give or take away roles.

A principal may do so when it holds exactly those roles, when it has the system scope, or when it
has every scope that the roles grant. What counts are the scopes of the roles it holds at the time;
there is no order among roles. A role that does not exist is an error and never a denial.
-/

namespace Provisioning

/-- Why a principal may go on. -/
inductive PermitReason where
  /-- It holds exactly the roles in question. -/
  | selfModification
  | systemScope
  /-- It has every scope in question. -/
  | scopeSuperset
  deriving DecidableEq, Repr

def PermitReason.name : PermitReason → String
  | selfModification => "SelfModification"
  | systemScope => "SystemScope"
  | scopeSuperset => "ScopeSuperset"

/-- What is decided. -/
inductive Decision where
  | permitted (reason : PermitReason)
  /-- The scopes in question that the principal does not have. -/
  | denied (missing : SortedSet String)
  deriving DecidableEq

/-- Whether a decision lets the principal go on. -/
def Decision.isPermitted : Decision → Bool
  | permitted _ => true
  | denied _ => false

/-- The rule by which is decided. -/
structure PermissionRule where
  /-- Whoever has this scope may do anything. -/
  systemScope : String
  /-- Whether holding exactly the roles in question is enough. -/
  selfModification : Bool
  deriving DecidableEq

namespace PermissionRule

/-- Compares the scopes of a principal with those in question. -/
def decide (r : PermissionRule) (scopes targets : SortedSet String) : Decision :=
  if scopes.contains r.systemScope then .permitted .systemScope
  else
    let missing := targets.filter fun s => !scopes.contains s
    if missing.isEmpty then .permitted .scopeSuperset else .denied missing

/-- The scopes of the roles with the given names, as far as they are known. -/
def scopesOf (l : Lookups) (names : List String) : SortedSet String :=
  .ofList ((names.filterMap l.roles.getByName?).flatMap fun r => r.scopes.toList)

/-- The names of the roles with the given identifiers; all of them have to exist. -/
def heldRoles (principal : Uuid) (roleIds : List Uuid) : Resolving (SortedSet String) := do
  Resolving.loadRolesById roleIds
  let l ← get
  let lost := roleIds.filter fun id => (l.roles.get? id).isNone
  if lost.isEmpty then return .ofList ((roleIds.filterMap l.roles.get?).map (·.name))
  else Resolving.fail (.unresolvedRoles principal (lost.map Uuid.toText))

/-- Compares the scopes of the roles held with those of the roles in question, all of which have to
exist. -/
def compareScopes (r : PermissionRule) (principal : Uuid) (held targets : SortedSet String) :
    Resolving Decision := do
  let names := (held.union targets).toList
  Resolving.loadRolesByName names
  let l ← get
  let unknown := names.filter fun name => (l.roles.getByName? name).isNone
  if unknown.isEmpty then
    return r.decide (scopesOf l held.toList) (scopesOf l targets.toList)
  else Resolving.fail (.unresolvedRoles principal unknown)

/-- Decides for a principal whose grants are known. -/
def evaluate (r : PermissionRule) (principal : Uuid) (grants : List Grant)
    (targets : SortedSet String) : Resolving Decision := do
  let held ← heldRoles principal (SortedSet.ofList (grants.map (·.role))).toList
  if r.selfModification && held == targets then return .permitted .selfModification
  else r.compareScopes principal held targets

/-- Decides for a principal. -/
def isPermitted (r : PermissionRule) (principal : Uuid) (targets : SortedSet String) :
    Resolving Decision := do
  let grants ← Session.query (.grants principal)
  r.evaluate principal grants targets

end PermissionRule

end Provisioning
