import Provisioning.Attribute.Kind
import Provisioning.Calendar.Timestamp
import Provisioning.Json.Printer
import Provisioning.Uuid

/-!
Values of attributes.

A value has exactly one kind. It has a stored form, the text kept in storage and compared for
uniqueness, and a wire form, the JSON value handed to clients.
-/

namespace Provisioning

inductive AttributeValue where
  | text (s : String)
  | boolean (b : Bool)
  | integer (n : Int) (inRange : Int64Range n)
  | decimal (x : Binary64)
  | date (d : Date)
  | time (t : Time)
  | timestamp (t : Timestamp)
  | uuid (u : Uuid)
  | document (j : Json)
  | list (items : List String)

namespace AttributeValue

def kind : AttributeValue → AttributeKind
  | text _ => .text
  | boolean _ => .boolean
  | integer _ _ => .integer
  | decimal _ => .decimal
  | date _ => .date
  | time _ => .time
  | timestamp _ => .timestamp
  | uuid _ => .uuid
  | document _ => .document
  | list _ => .list

def booleanText (b : Bool) : String := if b then "true" else "false"

def integerText (n : Int) : String := String.ofList (Json.wholeChars n)

/-- Elements of a list with commas between them. -/
def joinList (items : List String) : String := ",".intercalate items

def encode : AttributeValue → String
  | text s => s
  | boolean b => booleanText b
  | integer n _ => integerText n
  | decimal x => RealStyle.stored.render x
  | date d => d.toText
  | time t => t.toText
  | timestamp t => t.toText
  | uuid u => u.toText
  | document j => j.render
  | list items => joinList items

/-- A whole number that fits into 64 bits is one that a document can hold. -/
theorem wholeRange_of_int64Range {n : Int} (h : Int64Range n) : Json.WholeRange n := by
  obtain ⟨h1, h2⟩ := h
  exact ⟨h1, by omega⟩

def toWire : AttributeValue → Json
  | text s => .string s
  | boolean b => .bool b
  | integer n h => .number (.whole n (wholeRange_of_int64Range h))
  | decimal x => .number (.real x)
  | date d => .string d.toText
  | time t => .string t.toText
  | timestamp t => .string t.toText
  | uuid u => .string u.toText
  | document j => j
  | list items => .ofStrings items

/-- The texts that a validation pattern has to match, for kinds to which patterns apply. -/
def patternSubjects : AttributeValue → Option (List String)
  | text s => some [s]
  | list items => some items
  | _ => none

/-- Equality of values: timestamps are equal when they name one instant, and the two zeros of
floating-point numbers are equal, also inside documents. -/
def same : AttributeValue → AttributeValue → Bool
  | text a, text b => a == b
  | boolean a, boolean b => a == b
  | integer a _, integer b _ => a == b
  | decimal a, decimal b => a.same b
  | date a, date b => a == b
  | time a, time b => a == b
  | timestamp a, timestamp b => a.same b
  | uuid a, uuid b => a == b
  | document a, document b => a.same b
  | list a, list b => a == b
  | _, _ => false

end AttributeValue

end Provisioning
