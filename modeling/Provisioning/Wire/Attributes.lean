import Provisioning.Json.Printer
import Provisioning.Schema.Validation
import Provisioning.Wire.Reader

/-!
The wire forms of definitions, stored values and validation results.
-/

namespace Provisioning

open Json (ofStrings ofMembers)

def Uuid.toJson (u : Uuid) : Json := .string u.toText

namespace AttributeKind

def reader : Reader AttributeKind := .parsed ofText?

def toJson (k : AttributeKind) : Json := .string k.name

end AttributeKind

namespace AttributeDefinition

/-- Reads a definition. Constraints that are not given do not hold, and attributes are dynamic
unless it is said that they are not. -/
def reader : Reader AttributeDefinition := fun room d => do
  let r ← Record.reader
    ["id", "name", "type", "mandatory", "unique", "readOnly", "validationPattern", "dynamic"] room d
  return {
    id := ← r.field? "id" .uuid
    name := ← r.field? "name" .string
    kind := ← r.field? "type" AttributeKind.reader
    mandatory := ← r.fieldOr? "mandatory" .bool false
    unique := ← r.fieldOr? "unique" .bool false
    readOnly := ← r.fieldOr? "readOnly" .bool false
    pattern := ← r.optional? "validationPattern" .string
    dynamic := ← r.fieldOr? "dynamic" .bool true }

def toJson (d : AttributeDefinition) : Json := ofMembers [
  ("id", d.id.toJson), ("name", .string d.name), ("type", d.kind.toJson),
  ("mandatory", .bool d.mandatory), ("unique", .bool d.unique), ("readOnly", .bool d.readOnly),
  ("validationPattern", .ofOption .string d.pattern), ("dynamic", .bool d.dynamic)]

end AttributeDefinition

namespace ValueRow

def reader : Reader ValueRow := fun room d => do
  let r ← Record.reader ["userId", "attributeId", "value"] room d
  return {
    user := ← r.field? "userId" .uuid
    attributeId := ← r.field? "attributeId" .uuid
    value := ← r.field? "value" .string }

def toJson (row : ValueRow) : Json := ofMembers [
  ("userId", row.user.toJson), ("attributeId", row.attributeId.toJson),
  ("value", .string row.value)]

end ValueRow

namespace Probe

def reader : Reader Probe := fun room d => do
  let r ← Record.reader ["attributeId", "name", "encoded"] room d
  return {
    attributeId := ← r.field? "attributeId" .uuid
    name := ← r.field? "name" .string
    encoded := ← r.field? "encoded" .string }

def toJson (p : Probe) : Json := ofMembers [
  ("attributeId", p.attributeId.toJson), ("name", .string p.name), ("encoded", .string p.encoded)]

end Probe

namespace ValidationResult

def reader : Reader ValidationResult := fun room d => do
  let r ← Record.reader
    ["ok", "unknown", "missingMandatory", "invalid", "duplicate", "readOnly"] room d
  return {
    ok := ← r.field? "ok" .bool
    unknown := ← r.field? "unknown" (.list .string)
    missingMandatory := ← r.field? "missingMandatory" (.list .string)
    invalid := ← r.field? "invalid" (.list .string)
    duplicate := ← r.field? "duplicate" (.list .string)
    readOnly := ← r.fieldOr? "readOnly" (.list .string) [] }

/-- The wire form of the result of a validation. Read-only attributes are left out if there are
none. -/
def toJson (r : ValidationResult) : Json := ofMembers <|
  [("ok", .bool r.ok), ("unknown", ofStrings r.unknown),
    ("missingMandatory", ofStrings r.missingMandatory), ("invalid", ofStrings r.invalid),
    ("duplicate", ofStrings r.duplicate)] ++
  if r.readOnly.isEmpty then [] else [("readOnly", ofStrings r.readOnly)]

end ValidationResult

end Provisioning
