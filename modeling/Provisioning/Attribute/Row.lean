import Provisioning.Uuid

/-!
Stored values of attributes, and the questions asked about them.
-/

namespace Provisioning

/-- A stored value: there is at most one for a user and an attribute. -/
structure ValueRow where
  user : Uuid
  attributeId : Uuid
  /-- The stored form. -/
  value : String
  deriving DecidableEq

/-- A value of a unique attribute, to be looked for among those of other users. -/
structure Probe where
  attributeId : Uuid
  /-- The name of the attribute, for messages. -/
  name : String
  /-- The stored form. -/
  encoded : String
  deriving DecidableEq

end Provisioning
