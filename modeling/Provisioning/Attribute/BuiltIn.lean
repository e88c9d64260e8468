import Provisioning.Attribute.Definition
import Provisioning.Uuid.Named

/-!
The attributes that every user record has.

Their identifiers are derived from their names, so they are the same everywhere.
-/

namespace Provisioning

/-- A built-in attribute. -/
structure BuiltInField where
  name : String
  kind : AttributeKind := .text
  mandatory : Bool := false
  unique : Bool := false
  readOnly : Bool := false
  pattern : Option String := none
  deriving DecidableEq

namespace BuiltInField

/-- The namespace of the identifiers of built-in attributes. -/
def namespaceId : Uuid := .ofNat 0x6d8e3b1c52a44f0e9c711a2b3c4d5e6f

def id (f : BuiltInField) : Uuid := .named namespaceId f.name

def definition (f : BuiltInField) : AttributeDefinition :=
  ⟨f.id, f.name, f.kind, f.mandatory, f.unique, f.readOnly, f.pattern, false⟩

def all : List BuiltInField := [
  { name := "id", kind := .uuid, readOnly := true },
  { name := "username", mandatory := true, unique := true,
    pattern := some "[A-Za-z0-9._@-]\x7b3,64\x7d" },
  { name := "email", unique := true, pattern := some "[^@\\s]+@[^@\\s]+\\.[^@\\s]+" },
  { name := "first_name" },
  { name := "last_name" },
  { name := "phone_number", pattern := some "\\+?[0-9 ()-]\x7b6,20\x7d" },
  { name := "locale", pattern := some "[a-z]\x7b2\x7d(-[A-Z]\x7b2\x7d)?" },
  { name := "enabled", kind := .boolean },
  { name := "created_at", kind := .timestamp, readOnly := true },
  { name := "last_modified", kind := .timestamp, readOnly := true }]

def definitions : List AttributeDefinition := all.map definition

/-- The built-in attribute with a name, in any case of the ASCII letters. -/
def find? (name : String) : Option BuiltInField :=
  let word := Text.asciiLower name
  all.find? fun f => f.name == word

end BuiltInField

end Provisioning
