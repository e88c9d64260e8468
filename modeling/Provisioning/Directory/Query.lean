import Provisioning.Role.Basic
import Provisioning.Attribute.Definition
import Provisioning.Attribute.Row
import Provisioning.Grant.Basic

/-!
Questions to the directory of a tenant.

Everything that is kept elsewhere is asked for, all keys of one sort in one question. A question
about keys that do not exist is answered without them; it is for the asker to say what that means.
-/

namespace Provisioning

/-- The sorts of questions. -/
inductive Call where
  | definitions
  | taken
  | rolesByName
  | rolesById
  | accountsByName
  | accountsById
  | grants
  deriving DecidableEq, Repr

namespace Call

def all : List Call :=
  [definitions, taken, rolesByName, rolesById, accountsByName, accountsById, grants]

def name : Call → String
  | definitions => "list_definitions"
  | taken => "find_existing"
  | rolesByName => "resolve_roles_by_name"
  | rolesById => "resolve_roles_by_id"
  | accountsByName => "resolve_accounts_by_name"
  | accountsById => "resolve_accounts_by_id"
  | grants => "current_associations"

def ofName? (s : String) : Option Call := all.find? (·.name == s)

/-- What is looked up, as it is named where the answer could not be had. -/
def lookup : Call → String
  | definitions => "attribute_schema.list_definitions"
  | taken => "attribute_values.find_existing"
  | rolesByName => "roles.resolve_by_name"
  | rolesById => "roles.resolve_by_id"
  | accountsByName => "accounts.resolve_by_name"
  | accountsById => "accounts.resolve_by_id"
  | grants => "principals.current_associations"

end Call

/-- A question about one tenant. -/
inductive Query where
  /-- Every attribute definition. -/
  | definitions
  /-- Which of the probed values are stored for a user other than the given one. -/
  | taken (probes : List Probe) (except : Option Uuid)
  | rolesByName (names : List String)
  | rolesById (ids : List Uuid)
  | accountsByName (names : List String)
  | accountsById (ids : List Uuid)
  /-- Every grant of a user. -/
  | grants (user : Uuid)
  deriving DecidableEq

namespace Query

/-- What a question is answered with. -/
abbrev Answer : Query → Type
  | definitions => List AttributeDefinition
  | taken _ _ => SortedSet Uuid
  | rolesByName _ => List Role
  | rolesById _ => List Role
  | accountsByName _ => List Account
  | accountsById _ => List Account
  | grants _ => List Grant

def call : Query → Call
  | definitions => .definitions
  | taken _ _ => .taken
  | rolesByName _ => .rolesByName
  | rolesById _ => .rolesById
  | accountsByName _ => .accountsByName
  | accountsById _ => .accountsById
  | grants _ => .grants

/-- What a question about a tenant asks for, as it is named where the answer could not be had. -/
def keys (tenant : String) : Query → List String
  | definitions => [tenant]
  | taken probes _ => probes.map (·.name)
  | rolesByName names => names
  | rolesById ids => ids.map Uuid.toText
  | accountsByName names => names
  | accountsById ids => ids.map Uuid.toText
  | grants user => [user.toText]

end Query

/-- A directory did not answer a question about a tenant. -/
structure Unavailable where
  call : Call
  tenant : String
  deriving DecidableEq, Repr

/-- The wording of the fact that a directory did not answer. -/
def Unavailable.message (u : Unavailable) : String :=
  "Directory call '" ++ u.call.name ++ "' is unavailable for tenant '" ++ u.tenant ++ "'"

end Provisioning
