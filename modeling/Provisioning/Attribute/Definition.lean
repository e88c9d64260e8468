import Provisioning.Attribute.Kind
import Provisioning.Uuid

/-!
Definitions of attributes.

A definition gives an attribute its name, its kind and its constraints. Names are compared without
regard to case: what counts is the `key` of a definition, its name in lower case.
-/

namespace Provisioning

/-- What is known of an attribute. -/
structure AttributeDefinition where
  /-- Stored values refer to the attribute by this identifier. -/
  id : Uuid
  name : String
  kind : AttributeKind
  /-- A new record must have a value. -/
  mandatory : Bool
  /-- No two users may have the same value. -/
  unique : Bool
  /-- The value may only be set when the record is created. -/
  readOnly : Bool
  /-- A pattern that whole texts have to match. -/
  pattern : Option String
  /-- Added by an administrator, not built in. -/
  dynamic : Bool
  deriving DecidableEq

namespace AttributeDefinition

/-- A dynamic definition without constraints. -/
def plain (id : Uuid) (name : String) (kind : AttributeKind) : AttributeDefinition :=
  ⟨id, name, kind, false, false, false, none, true⟩

/-- The lower-case name, by which a definition is found. -/
def key (d : AttributeDefinition) : String := Text.lower d.name

end AttributeDefinition

end Provisioning
