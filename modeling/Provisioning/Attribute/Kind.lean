import Provisioning.Text.Blank
import Provisioning.Text.Casing

/-!
The kinds of attributes.

There are ten kinds. Each has one canonical name and is also known by the names that storage
engines use for its column type; names are read without regard to the case of ASCII letters and to
surrounding blanks.
-/

namespace Provisioning

inductive AttributeKind where
  /-- Free text. -/
  | text
  /-- A truth value in one of its many spellings. -/
  | boolean
  /-- A whole number of 64 bits with a sign. -/
  | integer
  /-- A finite floating-point number. -/
  | decimal
  | date
  | time
  | timestamp
  | uuid
  /-- Any JSON value. -/
  | document
  /-- Texts, none of them empty. -/
  | list
  deriving DecidableEq, Repr

namespace AttributeKind

def all : List AttributeKind :=
  [text, boolean, integer, decimal, date, time, timestamp, uuid, document, list]

def name : AttributeKind → String
  | text => "text"
  | boolean => "boolean"
  | integer => "integer"
  | decimal => "decimal"
  | date => "date"
  | time => "time"
  | timestamp => "timestamp"
  | uuid => "uuid"
  | document => "document"
  | list => "list"

def aliases : AttributeKind → List String
  | text => ["string", "varchar", "char", "character varying"]
  | boolean => ["bool"]
  | integer => ["int", "int4", "int8", "bigint", "smallint", "long"]
  | decimal => ["numeric", "double", "float", "real", "double precision"]
  | date => []
  | time => []
  | timestamp => ["timestamptz", "datetime"]
  | uuid => []
  | document => ["json", "jsonb"]
  | list => ["array"]

/-- Whether validation patterns apply to values of the kind. -/
def isTextLike : AttributeKind → Bool
  | text | list => true
  | _ => false

def ofText? (s : String) : Option AttributeKind :=
  let word := Text.asciiLower (Text.trim s)
  all.find? fun kind => word == kind.name || kind.aliases.contains word

/-- What is said of a text that names no kind. -/
def unknownMessage (s : String) : String := "Unknown attribute type '" ++ s ++ "'"

theorem mem_all (kind : AttributeKind) : kind ∈ all := by cases kind <;> decide

end AttributeKind

end Provisioning
