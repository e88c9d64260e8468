import Provisioning.Number.Binary64
import Provisioning.SortedMap

/-!
JSON values.

A number is a whole number that fits into 64 bits, with or without a sign, or a finite
floating-point number; the two sorts are different values even where they are numerically equal.
The members of an object are kept in key order, `Json.ofMembers` puts them there.
-/

namespace Provisioning

/-- The whole numbers a document can hold. -/
def Json.WholeRange (n : Int) : Prop := -0x8000000000000000 ≤ n ∧ n < 0x10000000000000000

instance (n : Int) : Decidable (Json.WholeRange n) := inferInstanceAs (Decidable (_ ∧ _))

/-- A number of a document. -/
inductive Json.Number where
  | whole (n : Int) (inRange : Json.WholeRange n)
  | real (x : Binary64)
  deriving DecidableEq

inductive Json where
  | null
  | bool (b : Bool)
  | number (n : Json.Number)
  | string (s : String)
  | array (items : List Json)
  | object (members : List (String × Json))

namespace Json

instance : Inhabited Json := ⟨.null⟩

/-- Equality of numbers: the sorts must agree, and the two floating-point zeros are one number. -/
def Number.same : Number → Number → Bool
  | .whole m _, .whole n _ => m == n
  | .real x, .real y => x.same y
  | _, _ => false

mutual

/-- Equality of values up to the sign of zero. -/
def same : Json → Json → Bool
  | .null, .null => true
  | .bool a, .bool b => a == b
  | .number a, .number b => a.same b
  | .string a, .string b => a == b
  | .array as, .array bs => sameItems as bs
  | .object as, .object bs => sameMembers as bs
  | _, _ => false

/-- Equality of lists of values, item by item. -/
def sameItems : List Json → List Json → Bool
  | [], [] => true
  | a :: as, b :: bs => same a b && sameItems as bs
  | _, _ => false

/-- Equality of lists of members, member by member. -/
def sameMembers : List (String × Json) → List (String × Json) → Bool
  | [], [] => true
  | (k, a) :: as, (l, b) :: bs => k == l && same a b && sameMembers as bs
  | _, _ => false

end

/-- The object with the given members; of two members with one name the later counts. -/
def ofMembers (members : List (String × Json)) : Json :=
  .object (members.foldl (fun ms m => Entries.insert m.1 m.2 ms) [])

/-- The whole number, where it fits into 64 bits, and else the nearest floating-point number. -/
def ofInt (n : Int) : Json :=
  if h : WholeRange n then .number (.whole n h)
  else match Binary64.ofInt n with
    | some x => .number (.real x)
    | none => .null

/-- The value of an optional part, null where there is none. -/
def ofOption {α : Type} (f : α → Json) : Option α → Json
  | some a => f a
  | none => .null

/-- An array of the values of a list. -/
def ofList {α : Type} (f : α → Json) (as : List α) : Json := .array (as.map f)

def ofStrings (ss : List String) : Json := ofList .string ss

def isNull : Json → Bool
  | .null => true
  | _ => false

/-- The name of the shape of a value, as messages give it. Only whole numbers with a sign that fit
into 64 bits count as integers. -/
def shapeName : Json → String
  | .null => "null"
  | .bool _ => "boolean"
  | .number (.whole n _) => if n < 0x8000000000000000 then "integer" else "decimal"
  | .number (.real _) => "decimal"
  | .string _ => "string"
  | .array _ => "array"
  | .object _ => "object"

mutual

/-- Every object of the value lists its members in strictly ascending key order. -/
def Ordered : Json → Prop
  | .array items => OrderedItems items
  | .object members => Entries.Ascending members ∧ OrderedMembers members
  | _ => True

def OrderedItems : List Json → Prop
  | [] => True
  | j :: js => Ordered j ∧ OrderedItems js

/-- Every member of a list has an ordered value. -/
def OrderedMembers : List (String × Json) → Prop
  | [] => True
  | (_, j) :: ms => Ordered j ∧ OrderedMembers ms

end

end Json

end Provisioning
