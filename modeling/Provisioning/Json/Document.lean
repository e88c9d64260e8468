import Provisioning.Json.Lexer

/-!
JSON texts as trees, and the values they denote.

A `Document` keeps what a text says: every member of an object in the order in which it is written,
also repeated ones, and scalars that have no value. `Document.value?` is the value of a document:
the last of several members with one name counts, and values must not be nested too deeply.
-/

namespace Provisioning

namespace Json

/-- What a JSON text says. -/
inductive Document where
  | null
  | bool (b : Bool)
  | number (n : Option Number)
  | string (s : Option String)
  | array (items : List Document)
  | object (members : List (Option String × Document))

namespace Document

instance : Inhabited Document := ⟨.null⟩

/-! ### Reading tokens -/

/-- An array or an object in progress, its parts newest first. -/
inductive Frame where
  | items (read : List Document)
  | member (read : List (Option String × Document)) (key : Option String)

/-- What has been read: the frames that are open, innermost first, and what may come next. -/
inductive State where
  | value (frames : List Frame)
  | firstItem (frames : List Frame)
  | afterItem (read : List Document) (frames : List Frame)
  | firstKey (frames : List Frame)
  | nextKey (read : List (Option String × Document)) (frames : List Frame)
  | colon (key : Option String) (read : List (Option String × Document)) (frames : List Frame)
  | afterMember (read : List (Option String × Document)) (frames : List Frame)
  | finished (d : Document)

/-- Puts a complete part where it belongs. -/
def complete (d : Document) : List Frame → State
  | [] => .finished d
  | .items read :: frames => .afterItem (d :: read) frames
  | .member read key :: frames => .afterMember ((key, d) :: read) frames

def begin (frames : List Frame) : Token → Option State
  | .null => some (complete .null frames)
  | .bool b => some (complete (.bool b) frames)
  | .number n => some (complete (.number n.value?) frames)
  | .string s => some (complete (.string s) frames)
  | .openArray => some (.firstItem frames)
  | .openObject => some (.firstKey frames)
  | _ => none

/-- Moves on over one token. -/
def step : State → Token → Option State
  | .value frames, token => begin frames token
  | .firstItem frames, .closeArray => some (complete (.array []) frames)
  | .firstItem frames, token => begin (.items [] :: frames) token
  | .afterItem read frames, .comma => some (.value (.items read :: frames))
  | .afterItem read frames, .closeArray => some (complete (.array read.reverse) frames)
  | .firstKey frames, .closeObject => some (complete (.object []) frames)
  | .firstKey frames, .string key => some (.colon key [] frames)
  | .nextKey read frames, .string key => some (.colon key read frames)
  | .colon key read frames, .colon => some (.value (.member read key :: frames))
  | .afterMember read frames, .comma => some (.nextKey read frames)
  | .afterMember read frames, .closeObject => some (complete (.object read.reverse) frames)
  | _, _ => none

def run : State → List Token → Option State
  | state, [] => some state
  | state, token :: tokens => (step state token).bind fun state => run state tokens

def ofChars? (cs : List Char) : Option Document :=
  match (tokens? cs).bind (run (.value [])) with
  | some (.finished d) => some d
  | _ => none

def ofText? (s : String) : Option Document := ofChars? s.toList

/-! ### Values -/

mutual

/-- The value of a document in which arrays and objects may still be nested `room` deep. -/
def value? (room : Nat) : Document → Option Json
  | .null => some .null
  | .bool b => some (.bool b)
  | .number n => n.map .number
  | .string s => s.map .string
  | .array items =>
    match room with
    | 0 => none
    | room + 1 => (itemValues? room items).map .array
  | .object members =>
    match room with
    | 0 => none
    | room + 1 => (memberValues? room members).map ofMembers

def itemValues? (room : Nat) : List Document → Option (List Json)
  | [] => some []
  | d :: ds => do
    let j ← value? room d
    let js ← itemValues? room ds
    return j :: js

/-- The members with the values of their documents. -/
def memberValues? (room : Nat) : List (Option String × Document) → Option (List (String × Json))
  | [] => some []
  | (key, d) :: ms => do
    let k ← key
    let j ← value? room d
    let js ← memberValues? room ms
    return (k, j) :: js

end

/-- How deeply arrays and objects may be nested in a text. -/
def maxDepth : Nat := 127

mutual

/-- How deeply arrays and objects are nested. -/
def depth : Document → Nat
  | .array items => depthOfItems items + 1
  | .object members => depthOfMembers members + 1
  | _ => 0

def depthOfItems : List Document → Nat
  | [] => 0
  | d :: ds => max (depth d) (depthOfItems ds)

def depthOfMembers : List (Option String × Document) → Nat
  | [] => 0
  | (_, d) :: ms => max (depth d) (depthOfMembers ms)

end

mutual

/-- The document that says exactly what a value is. -/
def ofJson : Json → Document
  | .null => .null
  | .bool b => .bool b
  | .number n => .number (some n)
  | .string s => .string (some s)
  | .array items => .array (ofItems items)
  | .object members => .object (ofMemberList members)

def ofItems : List Json → List Document
  | [] => []
  | j :: js => ofJson j :: ofItems js

def ofMemberList : List (String × Json) → List (Option String × Document)
  | [] => []
  | (k, j) :: ms => (some k, ofJson j) :: ofMemberList ms

end

end Document

def ofText? (s : String) : Option Json :=
  (Document.ofText? s).bind (Document.value? Document.maxDepth)

end Json

end Provisioning
