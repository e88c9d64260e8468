import Provisioning.Directory.Catalogue
import Provisioning.Directory.Query

/-!
What is kept for one tenant, and how it answers questions.

There is one definition for a key, one value for a user and an attribute, one role and one account
for an identifier. Grants are kept for each user in the order in which they were made.
-/

namespace Provisioning

/-- Everything that is kept for a tenant. -/
structure Tenant where
  /-- Definitions by their keys. -/
  definitions : SortedMap String AttributeDefinition
  /-- Stored values by user, and then by attribute. -/
  values : SortedMap Uuid (SortedMap Uuid String)
  roles : Catalogue Role
  accounts : Catalogue Account
  grants : SortedMap Uuid (List Grant)
  deriving DecidableEq

namespace Tenant

def empty : Tenant := ⟨∅, ∅, ∅, ∅, ∅⟩

instance : EmptyCollection Tenant := ⟨empty⟩

instance : Inhabited Tenant := ⟨empty⟩

/-! ### Looking -/

/-- The stored value of an attribute of a user. -/
def valueOf (t : Tenant) (user attributeId : Uuid) : Option String :=
  (t.values.get? user).bind (·.get? attributeId)

/-- Whether there is a definition with a name in any case. -/
def hasDefinition (t : Tenant) (name : String) : Bool := t.definitions.contains (Text.lower name)

def grantsOf (t : Tenant) (user : Uuid) : List Grant := (t.grants.get? user).getD []

/-- Whether a user other than the excepted one has the probed value. -/
def isTaken (t : Tenant) (except : Option Uuid) (p : Probe) : Bool :=
  t.values.toList.any fun (user, values) =>
    some user != except && values.get? p.attributeId == some p.encoded

def answer (t : Tenant) : (q : Query) → q.Answer
  | .definitions => t.definitions.values
  | .taken probes except => .ofList ((probes.filter (t.isTaken except)).map (·.attributeId))
  | .rolesByName names => t.roles.withNames names
  | .rolesById ids => t.roles.withIds ids
  | .accountsByName names => t.accounts.withNames names
  | .accountsById ids => t.accounts.withIds ids
  | .grants user => t.grantsOf user

/-! ### Changing -/

def addDefinition (t : Tenant) (d : AttributeDefinition) : Tenant :=
  { t with definitions := t.definitions.insert d.key d }

/-- Drops the definition with a name in any case. -/
def removeDefinition (t : Tenant) (name : String) : Tenant :=
  { t with definitions := t.definitions.erase (Text.lower name) }

def addRole (t : Tenant) (r : Role) : Tenant := { t with roles := t.roles.insert r }

/-- Drops a role. Grants of it stay. -/
def removeRole (t : Tenant) (id : Uuid) : Tenant := { t with roles := t.roles.erase id }

def addAccount (t : Tenant) (a : Account) : Tenant := { t with accounts := t.accounts.insert a }

/-- Makes a grant, unless it has been made already. -/
def addGrant (t : Tenant) (g : Grant) : Tenant :=
  let held := t.grantsOf g.user
  { t with grants := t.grants.insert g.user (if held.contains g then held else held ++ [g]) }

def replaceGrants (t : Tenant) (user : Uuid) (gs : List Grant) : Tenant :=
  { t with grants := t.grants.insert user gs }

def storeRow (t : Tenant) (row : ValueRow) : Tenant :=
  let values := (t.values.get? row.user).getD ∅
  { t with values := t.values.insert row.user (values.insert row.attributeId row.value) }

/-- Removes the value of an attribute of a user. -/
def clearValue (t : Tenant) (user attributeId : Uuid) : Tenant :=
  match t.values.get? user with
  | some values => { t with values := t.values.insert user (values.erase attributeId) }
  | none => t

/-- Stores values, and then removes others. -/
def storeValues (t : Tenant) (rows : List ValueRow) (cleared : List (Uuid × Uuid)) : Tenant :=
  cleared.foldl (fun t (user, attributeId) => t.clearValue user attributeId) (rows.foldl storeRow t)

end Tenant

end Provisioning
