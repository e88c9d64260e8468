import Provisioning.SortedSet
import Provisioning.Uuid

/-!
Roles and accounts.

Both are kept elsewhere and only read here. A role grants a set of scopes; a user holds roles on
accounts.
-/

namespace Provisioning

/-- A role and the scopes that it grants. -/
structure Role where
  id : Uuid
  name : String
  scopes : SortedSet String
  deriving DecidableEq

/-- An account. -/
structure Account where
  id : Uuid
  name : String
  deriving DecidableEq

end Provisioning
