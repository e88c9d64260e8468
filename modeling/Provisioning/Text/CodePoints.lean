/-!
Sets of code points, written as runs.

A table of a Unicode property is a list of rows, and a row is a text: runs in hexadecimal, parted
by blanks. A run is a code point, or the first and the last of a range (`41..5A`), of which every
second one may be meant (`100..12E/2`). In a table of a character map a run carries the distance its
members are moved (`41..5A+20`, `178-79`).
-/

namespace Provisioning.Text

/-- The code points `first`, `first + step`, … up to `last`, each of them moved by `shift`. -/
structure Run where
  first : Nat
  last : Nat
  step : Nat
  shift : Int
  deriving DecidableEq, Repr

namespace Run

def contains (r : Run) (n : Nat) : Bool :=
  r.first ≤ n && n ≤ r.last && (n - r.first) % r.step == 0

def single (n : Nat) : Run := ⟨n, n, 1, 0⟩

end Run

def hexDigit? (c : Char) : Option Nat :=
  let n := c.toNat
  if 48 ≤ n ∧ n ≤ 57 then some (n - 48)
  else if 65 ≤ n ∧ n ≤ 70 then some (n - 55)
  else if 97 ≤ n ∧ n ≤ 102 then some (n - 87)
  else none

/-- The number that hexadecimal digits denote; other characters count as zero. -/
def hexValue (cs : List Char) : Nat :=
  cs.foldl (fun n c => n * 16 + (hexDigit? c).getD 0) 0

/-- The number that decimal digits denote; other characters count as zero. -/
def decimalValue (cs : List Char) : Nat :=
  cs.foldl (fun n c => n * 10 + (if c.isDigit then c.toNat - 48 else 0)) 0

def Run.ofChars (cs : List Char) : Run :=
  let isHex := fun c : Char => (hexDigit? c).isSome
  let first := hexValue (cs.takeWhile isHex)
  let rest := cs.dropWhile isHex
  let (last, rest) := match rest with
    | '.' :: '.' :: more => (hexValue (more.takeWhile isHex), more.dropWhile isHex)
    | _ => (first, rest)
  let (step, rest) := match rest with
    | '/' :: more => (hexValue (more.takeWhile isHex), more.dropWhile isHex)
    | _ => (1, rest)
  match rest with
  | '+' :: more => ⟨first, last, step, hexValue more⟩
  | '-' :: more => ⟨first, last, step, -(hexValue more : Int)⟩
  | _ => ⟨first, last, step, 0⟩

/-- Parts characters at blanks, after the word read so far, last character first. -/
def wordsAfter (word : List Char) : List Char → List (List Char)
  | [] => if word = [] then [] else [word.reverse]
  | c :: rest =>
    if c = ' ' then (if word = [] then [] else [word.reverse]) ++ wordsAfter [] rest
    else wordsAfter (c :: word) rest

def runs (rows : List String) : List Run :=
  rows.flatMap fun row => (wordsAfter [] row.toList).map Run.ofChars

def inRuns (rs : List Run) (n : Nat) : Bool :=
  rs.any (·.contains n)

/-- Where a map given by runs moves a code point; one in no run stays. -/
def moveBy (rs : List Run) (n : Nat) : Nat :=
  match rs.find? (·.contains n) with
  | some r => ((n : Int) + r.shift).toNat
  | none => n

example : runs ["41..5A+20 100..12E/2", "178-79"] =
    [⟨65, 90, 1, 32⟩, ⟨256, 302, 2, 0⟩, ⟨376, 376, 1, -121⟩] := by decide

end Provisioning.Text
