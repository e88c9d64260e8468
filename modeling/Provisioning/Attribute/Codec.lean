import Provisioning.Attribute.Value
import Provisioning.Json.Document

/-!
Values read from their stored form and from JSON.

`decode` reads the stored form under a kind and `fromWire` a JSON value. Both accept nothing that is
not exactly a value of the kind. A list is stored with commas between its elements; none of them may
be empty, so the empty text is the empty list.
-/

namespace Provisioning

/-- Why a text is no value of a kind. -/
inductive ValueFault where
  | notBoolean
  | notZeroOrOne
  | integer (fault : IntFault)
  | notInteger64
  | decimal (fault : RealFault)
  | notFiniteNumber
  | emptyElement (index : Nat)
  | notDate
  | notTime
  | notTimestamp
  | notUuid
  | notDocument
  deriving DecidableEq, Repr

/-- The wording of a fault. For texts that follow a format of their own it only says which. -/
def ValueFault.message : ValueFault → String
  | notBoolean => "not a recognised boolean"
  | notZeroOrOne => "only 0 and 1 are accepted as booleans"
  | integer .empty => "cannot parse integer from empty string"
  | integer .invalidDigit => "invalid digit found in string"
  | integer .tooLarge => "number too large to fit in target type"
  | integer .tooSmall => "number too small to fit in target type"
  | notInteger64 => "not a 64-bit signed integer"
  | decimal .empty => "cannot parse float from empty string"
  | decimal .malformed => "invalid float literal"
  | decimal .notFinite => "decimal must be finite"
  | notFiniteNumber => "not a finite decimal"
  | emptyElement index => "element " ++ toString index ++ " is empty"
  | notDate => "not a date"
  | notTime => "not a time of day"
  | notTimestamp => "not a timestamp"
  | notUuid => "not a UUID"
  | notDocument => "not a JSON document"

/-- Why a value could not be read or written. -/
inductive CastError where
  /-- The shape of a JSON value is none that the kind accepts. -/
  | unexpectedShape (kind : AttributeKind) (found : String)
  /-- A text does not denote a value of the kind. -/
  | unparseable (kind : AttributeKind) (value : String) (fault : ValueFault)
  /-- A value was to be stored under another kind than its own. -/
  | kindMismatch (expected actual : AttributeKind)
  deriving DecidableEq, Repr

def CastError.message : CastError → String
  | unexpectedShape kind found => "Cannot read a JSON " ++ found ++ " as " ++ kind.name
  | unparseable kind value fault =>
    "'" ++ value ++ "' is not a valid " ++ kind.name ++ ": " ++ fault.message
  | kindMismatch expected actual =>
    "A " ++ actual.name ++ " value cannot be encoded as " ++ expected.name

namespace AttributeValue

/-- Reads a truth value in any of its spellings. -/
def boolean? (s : String) : Option Bool :=
  let word := Text.asciiLower (Text.trim s)
  if ["true", "t", "yes", "y", "on", "1"].contains word then some true
  else if ["false", "f", "no", "n", "off", "0"].contains word then some false
  else none

/-- Parts characters at commas. -/
def splitCommas : List Char → List (List Char)
  | [] => [[]]
  | c :: rest =>
    if c = ',' then [] :: splitCommas rest
    else match splitCommas rest with
      | item :: items => (c :: item) :: items
      | [] => [[c]]

/-- The elements of a stored list. -/
def splitList (s : String) : List String :=
  if s = "" then [] else (splitCommas s.toList).map String.ofList

/-- The first position that holds an empty text. -/
def emptyElement? (items : List String) : Option Nat := items.findIdx? (· == "")

/-- Texts as a list value, unless one of them is empty. -/
def ofItems (items : List String) : Except CastError AttributeValue :=
  match emptyElement? items with
  | some index => .error (.unparseable .list (joinList items) (.emptyElement index))
  | none => .ok (.list items)

/-- Stores a value under a kind, which has to be its own. -/
def encodeAs (kind : AttributeKind) (v : AttributeValue) : Except CastError String :=
  if v.kind = kind then
    match v with
    | .list items => (ofItems items).map encode
    | v => .ok v.encode
  else .error (.kindMismatch kind v.kind)

/-- Reads the stored form of a value of a kind. -/
def decode (kind : AttributeKind) (raw : String) : Except CastError AttributeValue :=
  let unparseable := fun fault => CastError.unparseable kind raw fault
  let parsed := fun {α : Type} (r : Option α) (fault : ValueFault) (make : α → AttributeValue) =>
    match r with
    | some a => Except.ok (make a)
    | none => .error (unparseable fault)
  match kind with
  | .text => .ok (.text raw)
  | .boolean => parsed (boolean? raw) .notBoolean .boolean
  | .integer =>
    match readInt64 raw with
    | .ok n => .ok (.integer n.1 n.2)
    | .error fault => .error (unparseable (.integer fault))
  | .decimal =>
    match readReal raw with
    | .ok x => .ok (.decimal x)
    | .error fault => .error (unparseable (.decimal fault))
  | .date => parsed (Date.ofText? raw) .notDate .date
  | .time => parsed (Time.ofText? raw) .notTime .time
  | .timestamp => parsed (Timestamp.ofText? raw) .notTimestamp .timestamp
  | .uuid => parsed (Uuid.ofText? raw) .notUuid .uuid
  | .document => parsed (Json.ofText? raw) .notDocument .document
  | .list => ofItems (splitList raw)

/-- The text of a scalar that is taken for an element of a list. -/
def itemText (j : Json) : Except CastError String :=
  match j with
  | .string s => .ok s
  | .number n => .ok n.render
  | .bool b => .ok (booleanText b)
  | j => .error (.unexpectedShape .list j.shapeName)

/-- Reads a JSON value as a value of a kind. -/
def fromWire (kind : AttributeKind) (j : Json) : Except CastError AttributeValue :=
  match kind, j with
  | kind, .null => .error (.unexpectedShape kind j.shapeName)
  | .text, .string s => .ok (.text s)
  | .text, .number n => .ok (.text n.render)
  | .text, .bool b => .ok (.text (booleanText b))
  | .boolean, .bool b => .ok (.boolean b)
  | .boolean, .number n =>
    match n with
    | .whole 0 _ => .ok (.boolean false)
    | .whole 1 _ => .ok (.boolean true)
    | n => .error (.unparseable .boolean n.render .notZeroOrOne)
  | .integer, .number n =>
    match n with
    | .whole i _ =>
      if h : Int64Range i then .ok (.integer i h)
      else .error (.unparseable .integer n.render .notInteger64)
    | .real _ => .error (.unparseable .integer n.render .notInteger64)
  | .decimal, .number n =>
    match n with
    | .real x => .ok (.decimal x)
    | .whole i _ =>
      match Binary64.ofInt i with
      | some x => .ok (.decimal x)
      | none => .error (.unparseable .decimal n.render .notFiniteNumber)
  | .document, .string s => decode .document s
  | .document, j => .ok (.document j)
  | .list, .array items => (items.mapM itemText).bind ofItems
  | kind, .string s => decode kind s
  | kind, j => .error (.unexpectedShape kind j.shapeName)

example : ((decode .document " [1, -0, 1.50, \"\\u0041\"] ").map encode).toOption =
    some "[1,-0.0,1.5,\"A\"]" := by decide +kernel

example : decode .list "a,,b" matches .error (.unparseable .list "a,,b" (.emptyElement 1)) := by
  decide +kernel

end AttributeValue

end Provisioning
