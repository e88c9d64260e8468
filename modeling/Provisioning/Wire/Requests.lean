import Provisioning.Policy
import Provisioning.Request
import Provisioning.Wire.Grants

/-!
The wire forms of configurations, requests and outcomes.
-/

namespace Provisioning

open Json (ofStrings ofMembers ofList ofOption)

def attributesToJson (m : SortedMap String Json) : Json := ofMembers m.toList

namespace Policy

def reader : Reader Policy := fun room d => do
  let r ← Record.reader
    ["systemScope", "allowSelfModification", "enforceReadOnly", "defaultAccount", "defaultRole"]
    room d
  return {
    systemScope := ← r.fieldOr? "systemScope" .string standard.systemScope
    selfModification := ← r.fieldOr? "allowSelfModification" .bool standard.selfModification
    enforceReadOnly := ← r.fieldOr? "enforceReadOnly" .bool standard.enforceReadOnly
    defaultAccount := ← r.optional? "defaultAccount" .string
    defaultRole := ← r.optional? "defaultRole" .string }

def toJson (p : Policy) : Json := ofMembers [
  ("systemScope", .string p.systemScope), ("allowSelfModification", .bool p.selfModification),
  ("enforceReadOnly", .bool p.enforceReadOnly),
  ("defaultAccount", ofOption .string p.defaultAccount),
  ("defaultRole", ofOption .string p.defaultRole)]

end Policy

namespace CreateRequest

/-- Reads a request to create a user. A user for whom no identifier is given gets a fresh one. -/
def reader (fresh : Uuid) : Reader CreateRequest := fun room d => do
  let r ← Record.reader ["userId", "attributes", "associations", "actingUser"] room d
  return {
    user := ← r.fieldOr? "userId" .uuid fresh
    attributes := ← r.fieldOr? "attributes" .object ∅
    grants := ← r.fieldOr? "associations" (.list RequestedGrant.reader) []
    acting := ← r.optional? "actingUser" .uuid }

def toJson (r : CreateRequest) : Json := ofMembers [
  ("userId", r.user.toJson), ("attributes", attributesToJson r.attributes),
  ("associations", ofList RequestedGrant.toJson r.grants),
  ("actingUser", ofOption Uuid.toJson r.acting)]

end CreateRequest

namespace PatchRequest

def reader : Reader PatchRequest := fun room d => do
  let r ← Record.reader ["userId", "actingUser", "attributes", "associationChanges"] room d
  return {
    user := ← r.field? "userId" .uuid
    acting := ← r.field? "actingUser" .uuid
    attributes := ← r.optional? "attributes" .object
    changes := ← r.fieldOr? "associationChanges" (.list Change.reader) [] }

/-- The wire form of a request to change a user. Attributes are left out if there are none. -/
def toJson (r : PatchRequest) : Json := ofMembers <|
  [("userId", r.user.toJson), ("actingUser", r.acting.toJson),
    ("associationChanges", ofList Change.toJson r.changes)] ++
  r.attributes.toList.map fun m => ("attributes", attributesToJson m)

end PatchRequest

namespace GrantsResult

def reader : Reader GrantsResult := fun room d => do
  let r ← Record.reader ["ok", "newAssociations", "errors", "rejection"] room d
  return {
    ok := ← r.field? "ok" .bool
    newGrants := ← r.field? "newAssociations" (.list Entitlement.reader)
    errors := ← r.field? "errors" (.list ChangeError.reader)
    rejection := ← r.optional? "rejection" (.named RejectionKind.ofName?) }

/-- The wire form of a verdict on grants. The rejection is left out if there is none. -/
def toJson (r : GrantsResult) : Json := ofMembers <|
  [("ok", .bool r.ok), ("newAssociations", ofList Entitlement.toJson r.newGrants),
    ("errors", ofList ChangeError.toJson r.errors)] ++
  r.rejection.toList.map fun k => ("rejection", .string k.name)

end GrantsResult

namespace OutcomeResult

def reader : Reader OutcomeResult := fun room d => do
  let r ← Record.reader ["ok", "userId", "attributes", "associations"] room d
  return {
    ok := ← r.field? "ok" .bool
    user := ← r.field? "userId" .uuid
    attributes := ← r.optional? "attributes" ValidationResult.reader
    grants := ← r.optional? "associations" GrantsResult.reader }

/-- The wire form of an outcome. Halves that were not asked for are left out. -/
def toJson (r : OutcomeResult) : Json := ofMembers <|
  [("ok", .bool r.ok), ("userId", r.user.toJson)] ++
  (r.attributes.toList.map fun v => ("attributes", v.toJson)) ++
  r.grants.toList.map fun g => ("associations", g.toJson)

end OutcomeResult

end Provisioning
