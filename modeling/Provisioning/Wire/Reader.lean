import Provisioning.Json.Document
import Provisioning.Uuid

/-!
Typed values read from documents.

A reader is told how deeply arrays and objects may still be nested and looks only at what it needs:
the values of members it does not know are not judged at all. A record is written as an object, or
as an array of its fields in their order, in which fields with a default may be missing at the end.
-/

namespace Provisioning

open Json (Document)

/-- Reads values of a type from documents of bounded depth. -/
abbrev Reader (α : Type) := (room : Nat) → Document → Option α

namespace Reader

def ofText? {α : Type} (r : Reader α) (s : String) : Option α :=
  (Document.ofText? s).bind (r Document.maxDepth)

/-- Reads a value, however deeply it is nested. -/
def ofJson? {α : Type} (r : Reader α) (j : Json) : Option α :=
  let d := Document.ofJson j
  r d.depth d

def string : Reader String
  | _, .string s => s
  | _, _ => none

def bool : Reader Bool
  | _, .bool b => some b
  | _, _ => none

def parsed {α : Type} (f : String → Option α) : Reader α :=
  fun room d => (string room d).bind f

def uuid : Reader Uuid := parsed Uuid.ofText?

/-- Reads null as nothing, and anything else by the given reader. -/
def optional {α : Type} (r : Reader α) : Reader (Option α)
  | _, .null => some none
  | room, d => (r room d).map some

def list {α : Type} (r : Reader α) : Reader (List α)
  | room + 1, .array items => items.mapM (r room)
  | _, _ => none

def object : Reader (SortedMap String Json)
  | room + 1, .object members => (Document.memberValues? room members).map .ofList
  | _, _ => none

/-- Reads one of several names, also written as an object with null under the name. -/
def named {α : Type} (f : String → Option α) : Reader α
  | _, .string s => s.bind f
  | _ + 1, .object [(key, .null)] => key.bind f
  | _, _ => none

end Reader

/-- The fields that a document gives for a record. -/
structure Record where
  room : Nat
  given : List (String × Document)

namespace Record

/-- The documents given for the declared fields, if every key is a text and no field is given
twice. -/
def members? (fields : List String) :
    List (Option String × Document) → Option (List (String × Document))
  | [] => some []
  | (key, d) :: rest => do
    let k ← key
    let given ← members? fields rest
    if fields.contains k then
      if (given.map Prod.fst).contains k then none else return (k, d) :: given
    else return given

def reader (fields : List String) : Reader Record
  | room + 1, .object members => (members? fields members).map (Record.mk room)
  | room + 1, .array items =>
    if items.length ≤ fields.length then some ⟨room, fields.zip items⟩ else none
  | _, _ => none

def field? {α : Type} (r : Record) (name : String) (read : Reader α) : Option α :=
  (r.given.lookup name).bind (read r.room)

def fieldOr? {α : Type} (r : Record) (name : String) (read : Reader α) (default : α) : Option α :=
  match r.given.lookup name with
  | some d => read r.room d
  | none => some default

/-- A field that may be missing or null. -/
def optional? {α : Type} (r : Record) (name : String) (read : Reader α) : Option (Option α) :=
  r.fieldOr? name (Reader.optional read) none

end Record

end Provisioning
