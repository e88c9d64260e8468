import Provisioning.Text.Blank
import Provisioning.Uuid

/-!
Grants, and requests to change them.

An entitlement is a role on an account; a grant gives it to a user. A change adds one entitlement,
takes one away, or takes away all that a user has on an account. On the wire the target of a change
is one text: the name of a role, or a marker for all roles.
-/

namespace Provisioning

/-- A role on an account. -/
structure Entitlement where
  account : Uuid
  role : Uuid
  deriving DecidableEq

/-- An entitlement that a user has. -/
structure Grant where
  user : Uuid
  account : Uuid
  role : Uuid
  deriving DecidableEq

/-- What is granted. -/
def Grant.entitlement (g : Grant) : Entitlement := ⟨g.account, g.role⟩

/-- The grant of an entitlement to a user. -/
def Entitlement.grantTo (e : Entitlement) (user : Uuid) : Grant := ⟨user, e.account, e.role⟩

/-- What a change does. -/
inductive ChangeOp where
  | removeOne
  | removeAll
  | add
  deriving DecidableEq, Repr

namespace ChangeOp

/-- Everything that a change can do, in the order in which changes of a batch are judged. -/
def all : List ChangeOp := [removeOne, removeAll, add]

/-- The place of a change in its batch; lower places come first. -/
def priority : ChangeOp → Nat
  | removeOne => 1
  | removeAll => 2
  | add => 3

/-- Things in the order of what they do; those that do the same stay as they are. -/
def inOrder {α : Type} (f : α → ChangeOp) (as : List α) : List α :=
  all.flatMap fun op => as.filter (f · == op)

def name : ChangeOp → String
  | removeOne => "remove_specific"
  | removeAll => "remove_all_for_account"
  | add => "add"

def ofName? (s : String) : Option ChangeOp := all.find? (·.name == s)

end ChangeOp

/-- Which roles a change is about. -/
inductive ChangeTarget where
  | role (name : String)
  | allRoles
  deriving DecidableEq

namespace ChangeTarget

/-- What stands for all roles on the wire. -/
def marker : String := "*"

def toText : ChangeTarget → String
  | role name => name
  | allRoles => marker

/-- Reads a target. Blank texts and the marker, blanks around it apart, stand for all roles. -/
def ofText (s : String) : ChangeTarget :=
  let word := Text.trim s
  if word = "" ∨ word = marker then allRoles else role s

/-- The name of the role, if the change is about one. -/
def roleName : ChangeTarget → Option String
  | role name => some name
  | allRoles => none

end ChangeTarget

structure Change where
  /-- An identifier of an account, or its name. -/
  account : String
  target : ChangeTarget
  op : ChangeOp
  deriving DecidableEq

namespace Change

/-- Gives a role on an account. -/
def add (account role : String) : Change := ⟨account, .role role, .add⟩

/-- Takes away a role on an account. -/
def removeOne (account role : String) : Change := ⟨account, .role role, .removeOne⟩

/-- Takes away every role on an account. -/
def removeAll (account : String) : Change := ⟨account, .allRoles, .removeAll⟩

end Change

/-- An entitlement requested for a new user. -/
structure RequestedGrant where
  /-- An identifier of an account, or its name. -/
  account : String
  role : String
  deriving DecidableEq

/-- The change that adds the requested entitlement. -/
def RequestedGrant.toChange (r : RequestedGrant) : Change := .add r.account r.role

inductive ChangeFault where
  | unknownAccount
  | unknownRole
  | roleRequired
  | allRolesRequired
  | alreadyHeld
  | notHeld
  | nothingOnAccount
  | wouldRemoveAll
  | permissionDenied
  deriving DecidableEq, Repr

namespace ChangeFault

def all : List ChangeFault :=
  [unknownAccount, unknownRole, roleRequired, allRolesRequired, alreadyHeld, notHeld,
    nothingOnAccount, wouldRemoveAll, permissionDenied]

def name : ChangeFault → String
  | unknownAccount => "unknown_account"
  | unknownRole => "unknown_role"
  | roleRequired => "role_target_required"
  | allRolesRequired => "all_roles_target_required"
  | alreadyHeld => "association_exists"
  | notHeld => "association_missing"
  | nothingOnAccount => "account_has_no_associations"
  | wouldRemoveAll => "would_remove_all_associations"
  | permissionDenied => "permission_denied"

def ofName? (s : String) : Option ChangeFault := all.find? (·.name == s)

def message : ChangeFault → String
  | unknownAccount => "account does not exist"
  | unknownRole => "role does not exist"
  | roleRequired => "operation requires a role name"
  | allRolesRequired => "operation applies to every role and takes no role name"
  | alreadyHeld => "user already holds this role on the account"
  | notHeld => "user does not hold this role on the account"
  | nothingOnAccount => "user holds no role on the account"
  | wouldRemoveAll => "user would be left without any association"
  | permissionDenied => "not permitted to modify this role"

end ChangeFault

structure ChangeError where
  account : String
  target : String
  op : ChangeOp
  fault : ChangeFault
  deriving DecidableEq

def Change.refuse (c : Change) (fault : ChangeFault) : ChangeError :=
  ⟨c.account, c.target.toText, c.op, fault⟩

end Provisioning
