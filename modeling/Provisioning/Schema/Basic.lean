import Provisioning.Attribute.BuiltIn
import Provisioning.Pattern.Limits
import Provisioning.Pattern.Search
import Provisioning.SortedMap

/-!
Schemas: the attributes that the users of one tenant can have.

A schema holds definitions by their keys, each with its compiled pattern. Dynamic attributes are
defined and retired; built-in ones are neither. A pattern is compiled between an anchor at each end,
so that it is meant to match whole texts.
-/

namespace Provisioning

/-- Why a schema cannot be made or changed. -/
inductive SchemaError where
  | emptyName
  | invalidPattern (name pattern : String)
  /-- Built-in attributes cannot be changed. -/
  | builtIn (name : String)
  | notDynamic (name : String)
  | unknown (name : String)
  /-- Two definitions have one key. -/
  | duplicate (name : String)
  deriving DecidableEq, Repr

def SchemaError.message : SchemaError → String
  | emptyName => "Attribute definition name cannot be empty"
  | invalidPattern name pattern =>
    "Attribute '" ++ name ++ "' has an invalid validation pattern '" ++ pattern ++ "'"
  | builtIn name =>
    "Attribute '" ++ name ++ "' is a built-in field and cannot be redefined or retired"
  | notDynamic name => "Attribute '" ++ name ++ "' must be registered as a dynamic attribute"
  | unknown name => "Attribute '" ++ name ++ "' is not defined"
  | duplicate name => "Attribute '" ++ name ++ "' is defined more than once"

/-- The text of a pattern between its anchors. -/
def anchored (pattern : String) : String := "^(?:" ++ pattern ++ ")$"

/-- A pattern that values have to match. -/
structure CompiledPattern where
  /-- The text that was compiled, with its anchors. -/
  source : String
  pattern : Pattern
  deriving DecidableEq

namespace CompiledPattern

def ofText? (text : String) : Option CompiledPattern :=
  (Pattern.ofText? (anchored text)).map fun p => ⟨anchored text, p⟩

def accepts (p : CompiledPattern) (text : String) : Bool := p.pattern.found text.toList

end CompiledPattern

example : ((CompiledPattern.ofText? "a|bc").map fun p => (p.accepts "bc", p.accepts "abc")) =
    some (true, false) := by decide +kernel

/-- A text can be a pattern between the anchors without being one by itself. -/
example : Pattern.ofText? "a)|(b" = none ∧ (CompiledPattern.ofText? "a)|(b").isSome := by
  decide +kernel

/-- A definition and its compiled pattern. -/
structure SchemaEntry where
  definition : AttributeDefinition
  pattern : Option CompiledPattern
  deriving DecidableEq

/-- Prepares a definition for a schema. -/
def SchemaEntry.ofDefinition (d : AttributeDefinition) : Except SchemaError SchemaEntry :=
  if Text.isBlankText d.name then .error .emptyName
  else match d.pattern with
    | none => .ok ⟨d, none⟩
    | some text =>
      match CompiledPattern.ofText? text with
      | some p => .ok ⟨d, some p⟩
      | none => .error (.invalidPattern d.name text)

/-- The attributes that users can have, by their keys. -/
structure Schema where
  entries : SortedMap String SchemaEntry
  deriving DecidableEq

namespace Schema

def empty : Schema := ⟨∅⟩

instance : EmptyCollection Schema := ⟨empty⟩

/-- Adds a definition whose key must be new. -/
def add (s : Schema) (d : AttributeDefinition) : Except SchemaError Schema :=
  if s.entries.contains d.key then .error (.duplicate d.name)
  else (SchemaEntry.ofDefinition d).map fun entry => ⟨s.entries.insert d.key entry⟩

/-- The schema of a list of definitions, which must have different keys. -/
def ofDefinitions (ds : List AttributeDefinition) : Except SchemaError Schema :=
  ds.foldlM add empty

def builtIn : Except SchemaError Schema := ofDefinitions BuiltInField.definitions

/-- The entry of an attribute, its name in any case. -/
def entry? (s : Schema) (name : String) : Option SchemaEntry := s.entries.get? (Text.lower name)

/-- The definition of an attribute, its name in any case. -/
def resolve (s : Schema) (name : String) : Option AttributeDefinition :=
  (s.entry? name).map SchemaEntry.definition

/-- The pattern of an attribute, its name in any case. -/
def pattern? (s : Schema) (name : String) : Option CompiledPattern :=
  (s.entry? name).bind SchemaEntry.pattern

def definitions (s : Schema) : List AttributeDefinition :=
  s.entries.values.map SchemaEntry.definition

/-- The definitions of the attributes that a new record must have. -/
def mandatory (s : Schema) : List AttributeDefinition := s.definitions.filter (·.mandatory)

def size (s : Schema) : Nat := s.entries.size

/-- Puts the definition of a dynamic attribute in its place. An attribute that is already defined
keeps its identifier, so that stored values stay attached to it. Returns the definition as it is
now. -/
def define (s : Schema) (d : AttributeDefinition) :
    Except SchemaError (AttributeDefinition × Schema) :=
  let put := fun (d : AttributeDefinition) =>
    (SchemaEntry.ofDefinition d).map fun entry =>
      (entry.definition, (⟨s.entries.insert d.key entry⟩ : Schema))
  if !d.dynamic then .error (.notDynamic d.name)
  else match s.entries.get? d.key with
    | some old =>
      if old.definition.dynamic then put { d with id := old.definition.id }
      else .error (.builtIn old.definition.name)
    | none =>
      if (BuiltInField.find? d.name).isSome then .error (.builtIn d.name) else put d

/-- Drops a dynamic attribute, its name in any case. Returns its definition. -/
def retire (s : Schema) (name : String) : Except SchemaError (AttributeDefinition × Schema) :=
  match s.entry? name with
  | none => .error (.unknown name)
  | some old =>
    if old.definition.dynamic then
      .ok (old.definition, ⟨s.entries.erase (Text.lower name)⟩)
    else .error (.builtIn old.definition.name)

end Schema

end Provisioning
