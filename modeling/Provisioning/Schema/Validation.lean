import Provisioning.Attribute.Codec
import Provisioning.Attribute.Row
import Provisioning.Schema.Basic
import Provisioning.SortedSet
import Provisioning.Text.Quoted

/-!
Proposed attributes judged by a schema.

Every proposed entry is judged on its own, apart from whether an earlier entry was for the same
attribute, and the judgement is a `Finding`. The result collects the findings of each sort, together
with the mandatory attributes of a new record that nobody supplied and the values that another user
already has. No check hides another: all problems are reported together.
-/

namespace Provisioning

/-- Whether the attributes are those of a new record or of a user who already exists. -/
inductive RecordState where
  | new
  | existing (user : Uuid)
  deriving DecidableEq

namespace RecordState

/-- The user whose own values do not count as taken. -/
def ownUser : RecordState → Option Uuid
  | new => none
  | existing user => some user

def isNew : RecordState → Bool
  | new => true
  | existing _ => false

end RecordState

/-- A proposed value that was accepted. -/
structure AcceptedValue where
  attributeId : Uuid
  /-- The name in the definition. -/
  name : String
  value : AttributeValue
  /-- The stored form of the value. -/
  encoded : String

/-- What is found about one proposed entry. -/
inductive Finding where
  /-- No attribute has the name. -/
  | unknown (name : String)
  /-- An earlier entry was for the same attribute. -/
  | repeated (d : AttributeDefinition)
  /-- The attribute of an existing user must not change. -/
  | readOnly (d : AttributeDefinition)
  /-- The value of an existing user is to be removed. -/
  | cleared (d : AttributeDefinition)
  /-- A new record was given no value. -/
  | absent (d : AttributeDefinition)
  /-- The value is none of the kind, or the pattern does not accept it. -/
  | invalid (d : AttributeDefinition)
  | accepted (d : AttributeDefinition) (value : AttributeValue)

namespace Finding

/-- The name, if no attribute has it. -/
def unknownName? : Finding → Option String
  | unknown name => some name
  | _ => none

/-- The name of the attribute, if its value is invalid or given more than once. -/
def invalidName? : Finding → Option String
  | repeated d => some d.name
  | invalid d => some d.name
  | _ => none

/-- The name of the attribute, if it is read-only. -/
def readOnlyName? : Finding → Option String
  | readOnly d => some d.name
  | _ => none

/-- The identifier of the attribute, if it is cleared. -/
def clearedId? : Finding → Option Uuid
  | cleared d => some d.id
  | _ => none

def acceptedValue? : Finding → Option AcceptedValue
  | accepted d v => some ⟨d.id, d.name, v, v.encode⟩
  | _ => none

/-- The question whether another user has the accepted value of a unique attribute. -/
def probe? : Finding → Option Probe
  | accepted d v => if d.unique then some ⟨d.id, d.name, v.encode⟩ else none
  | _ => none

end Finding

namespace Schema

/-- Whether the pattern of an attribute, if it has one that applies, accepts a value. -/
def patternAccepts (s : Schema) (d : AttributeDefinition) (v : AttributeValue) : Bool :=
  match if d.kind.isTextLike then s.pattern? d.key else none, v.patternSubjects with
  | some p, some subjects => subjects.all p.accepts
  | _, _ => true

/-- Judges a value for an attribute. -/
def judgeValue (s : Schema) (d : AttributeDefinition) (j : Json) : Finding :=
  match AttributeValue.fromWire d.kind j with
  | .error _ => .invalid d
  | .ok v => if s.patternAccepts d v then .accepted d v else .invalid d

/-- Judges an entry after earlier ones, of which the keys of their attributes are given. -/
def judge (s : Schema) (enforceReadOnly : Bool) (state : RecordState) (earlier : List String)
    (name : String) (j : Json) : Finding :=
  match s.resolve name with
  | none => .unknown name
  | some d =>
    if earlier.contains d.key then .repeated d
    else if enforceReadOnly && d.readOnly && !state.isNew then .readOnly d
    else if j.isNull then (if state.isNew then .absent d else .cleared d)
    else s.judgeValue d j

/-- The key of the attribute that a name stands for. -/
def keyOf? (s : Schema) (name : String) : Option String := (s.resolve name).map (·.key)

/-- Judges entries one after the other. -/
def findings (s : Schema) (enforceReadOnly : Bool) (state : RecordState) (earlier : List String) :
    List (String × Json) → List Finding
  | [] => []
  | (name, j) :: rest =>
    s.judge enforceReadOnly state earlier name j ::
      s.findings enforceReadOnly state ((s.keyOf? name).toList ++ earlier) rest

/-- Whether the last entry for an attribute, if there is one, gives it a value. -/
def supplied (s : Schema) (proposed : List (String × Json)) (d : AttributeDefinition) : Bool :=
  match (proposed.filter fun entry => s.keyOf? entry.1 == some d.key).getLast? with
  | some entry => !entry.2.isNull
  | none => false

/-- The mandatory attributes for which a new record has no value. -/
def missing (s : Schema) (state : RecordState) (proposed : List (String × Json)) : List String :=
  if state.isNew then (s.mandatory.filter fun d => !s.supplied proposed d).map (·.name) else []

end Schema

/-- The result of a validation: the names of the attributes with a problem of each sort. -/
structure ValidationResult where
  ok : Bool
  unknown : List String
  missingMandatory : List String
  invalid : List String
  duplicate : List String
  readOnly : List String
  deriving DecidableEq

/-- A sort of problem and the names of all attributes that have it. -/
inductive Violation where
  | unknownAttribute (names : List String)
  | missingMandatory (names : List String)
  | invalidValue (names : List String)
  | duplicateValue (names : List String)
  | readOnlyAttribute (names : List String)
  deriving DecidableEq

namespace Violation

def names : Violation → List String
  | unknownAttribute ns | missingMandatory ns | invalidValue ns | duplicateValue ns
  | readOnlyAttribute ns => ns

def sort : Violation → String
  | unknownAttribute _ => "UnknownAttribute"
  | missingMandatory _ => "MissingMandatory"
  | invalidValue _ => "InvalidValue"
  | duplicateValue _ => "DuplicateValue"
  | readOnlyAttribute _ => "ReadOnlyAttribute"

def message (v : Violation) : String :=
  let lead := match v with
    | unknownAttribute _ => "Unknown attributes: "
    | missingMandatory _ => "Missing mandatory attributes: "
    | invalidValue _ => "Invalid attribute values: "
    | duplicateValue _ => "Attribute values already in use: "
    | readOnlyAttribute _ => "Read-only attributes cannot be changed: "
  lead ++ Text.quoteList v.names

end Violation

namespace ValidationResult

/-- Names in order and without repetition. -/
def sorted (names : List String) : List String := (SortedSet.ofList names).toList

/-- The result of lists of names; it is ok if all of them are empty. -/
def ofNames (unknown missingMandatory invalid duplicate readOnly : List String) :
    ValidationResult where
  ok := unknown.isEmpty && missingMandatory.isEmpty && invalid.isEmpty && duplicate.isEmpty &&
    readOnly.isEmpty
  unknown := sorted unknown
  missingMandatory := sorted missingMandatory
  invalid := sorted invalid
  duplicate := sorted duplicate
  readOnly := sorted readOnly

/-- The sorts of problems that occurred. -/
def violations (r : ValidationResult) : List Violation :=
  [.unknownAttribute r.unknown, .missingMandatory r.missingMandatory, .invalidValue r.invalid,
    .duplicateValue r.duplicate, .readOnlyAttribute r.readOnly].filter fun v => !v.names.isEmpty

end ValidationResult

structure Validation where
  result : ValidationResult
  /-- The accepted values, in the order of the entries. -/
  values : List AcceptedValue
  /-- The attributes whose values are removed. -/
  cleared : List Uuid

/-- The rows to be stored for a user. -/
def Validation.rows (v : Validation) (user : Uuid) : List ValueRow :=
  v.values.map fun a => ⟨user, a.attributeId, a.encoded⟩

/-- What the checks found that need no look at stored values. -/
structure AttributeCheck where
  findings : List Finding
  missing : List String

namespace AttributeCheck

def accepted (c : AttributeCheck) : List AcceptedValue :=
  c.findings.filterMap Finding.acceptedValue?

/-- The values to be looked for among those of other users. -/
def probes (c : AttributeCheck) : List Probe := c.findings.filterMap Finding.probe?

/-- The names of the accepted attributes that are unique and whose identifiers are taken. -/
def duplicates (c : AttributeCheck) (taken : SortedSet Uuid) : List String :=
  let uniqueIds := c.probes.map (·.attributeId)
  (c.accepted.filter fun a =>
    uniqueIds.contains a.attributeId && taken.contains a.attributeId).map (·.name)

/-- Finishes a validation with the identifiers of the attributes whose values are taken. -/
def finish (c : AttributeCheck) (taken : SortedSet Uuid) : Validation where
  result := .ofNames (c.findings.filterMap Finding.unknownName?) c.missing
    (c.findings.filterMap Finding.invalidName?) (c.duplicates taken)
    (c.findings.filterMap Finding.readOnlyName?)
  values := c.accepted
  cleared := c.findings.filterMap Finding.clearedId?

end AttributeCheck

/-- Judges proposed attributes, in the order of their names. -/
def Schema.check (s : Schema) (enforceReadOnly : Bool) (state : RecordState)
    (proposed : SortedMap String Json) : AttributeCheck where
  findings := s.findings enforceReadOnly state [] proposed.toList
  missing := s.missing state proposed.toList

end Provisioning
