import Provisioning.Pattern.Basic
import Provisioning.Text.Blank
import Provisioning.Text.Folding

/-!
Flags of regular expressions, and the sets and anchors of single elements under them.

A group such as `(?i-s)` or `(?x:…)` switches flags on and off. In extended mode blanks and comments
between elements are skipped. Without the flag for Unicode every set of characters has to stay
within ASCII, because patterns are applied to texts and not to bytes.
-/

namespace Provisioning.Pattern

/-- The flags in force at a place of a regular expression. -/
structure Flags where
  ignoreCase : Bool := false
  multiLine : Bool := false
  dotAll : Bool := false
  crlf : Bool := false
  unicode : Bool := true
  extended : Bool := false
  swapGreed : Bool := false
  deriving DecidableEq, Repr

/-- A letter that stands for a flag. The last one exchanges greedy and lazy repetition. -/
inductive Flag where
  | ignoreCase
  | multiLine
  | dotAll
  | crlf
  | unicode
  | extended
  | swapGreed
  deriving DecidableEq, Repr

namespace Flag

def ofChar? : Char → Option Flag
  | 'i' => some .ignoreCase
  | 'm' => some .multiLine
  | 's' => some .dotAll
  | 'R' => some .crlf
  | 'u' => some .unicode
  | 'x' => some .extended
  | 'U' => some .swapGreed
  | _ => none

end Flag

namespace Flags

def set (f : Flags) (on : Bool) : Flag → Flags
  | .ignoreCase => { f with ignoreCase := on }
  | .multiLine => { f with multiLine := on }
  | .dotAll => { f with dotAll := on }
  | .crlf => { f with crlf := on }
  | .unicode => { f with unicode := on }
  | .extended => { f with extended := on }
  | .swapGreed => { f with swapGreed := on }

/-- Follows a list of flags, in which `none` stands for the sign after which they are switched
off. -/
def apply (f : Flags) (items : List (Option Flag)) : Flags :=
  (items.foldl
    (fun (acc : Flags × Bool) item =>
      match item with
      | none => (acc.1, false)
      | some flag => (acc.1.set acc.2 flag, acc.2))
    (f, true)).1

/-- Skips blanks and comments; inside a comment everything up to the end of the line. -/
def skipGaps (inComment : Bool) : List Char → List Char
  | [] => []
  | c :: rest =>
    if inComment then skipGaps (c != '\n') rest
    else if c = '#' then skipGaps true rest
    else if Text.isBlank c then skipGaps false rest
    else c :: rest

/-- Skips what means nothing before the next element. -/
def skip (f : Flags) (cs : List Char) : List Char :=
  if f.extended then skipGaps false cs else cs

/-- The characters up to a closing brace, without those that mean nothing, and what follows the
brace. -/
def braced? (f : Flags) (inComment : Bool) : List Char → Option (List Char × List Char)
  | [] => none
  | c :: rest =>
    if f.extended ∧ inComment then f.braced? (c != '\n') rest
    else if f.extended ∧ c = '#' then f.braced? true rest
    else if f.extended ∧ Text.isBlank c then f.braced? false rest
    else if c = '\x7d' then some ([], rest)
    else (f.braced? false rest).map fun (cs, rest) => (c :: cs, rest)

/-- The members of a class that are not in a set; a class is taken from every character, or from
every byte. -/
def complement (f : Flags) (s : CharSet) : CharSet :=
  s.complement (if f.unicode then 0x10FFFF else 255)

/-- A set with the case variants of its members, where case does not count. -/
def foldCase (f : Flags) (s : CharSet) : CharSet :=
  if f.ignoreCase then (if f.unicode then s.variants else s.asciiVariants) else s

def orNot (f : Flags) (negated : Bool) (s : CharSet) : CharSet :=
  if negated then f.complement s else s

/-- Whether a set may be used: outside Unicode it must not reach beyond ASCII. -/
def admits (f : Flags) (s : CharSet) : Bool :=
  f.unicode || s.isBelow 128

def admitted? (f : Flags) (s : CharSet) : Option CharSet := if f.admits s then some s else none

/-- The code point of a literal. Outside Unicode a literal written as a byte has to be ASCII. -/
def literal? (f : Flags) (c : Char) (byte : Bool) : Option Char :=
  if !f.unicode && byte && 128 ≤ c.toNat then none else some c

/-- The set of a literal and, where case does not count, of its case variants. -/
def literalSet? (f : Flags) (c : Char) (byte : Bool) : Option CharSet :=
  (f.literal? c byte).map fun c => f.foldCase (.single c)

def dotSet? (f : Flags) : Option CharSet :=
  if !f.unicode then none
  else if f.dotAll then some .all
  else if f.crlf then some (f.complement ((CharSet.single '\r').union (.single '\n')))
  else some (f.complement (.single '\n'))

def caret (f : Flags) : Anchor :=
  if f.multiLine then (if f.crlf then .lineStartCrlf else .lineStart) else .textStart

def dollar (f : Flags) : Anchor :=
  if f.multiLine then (if f.crlf then .lineEndCrlf else .lineEnd) else .textEnd

def digits (f : Flags) : CharSet :=
  if f.unicode then Text.Category.decimalNumber.members else .range 48 57

def blanks (f : Flags) : CharSet :=
  if f.unicode then Text.blankSet else .ofIntervals [⟨9, 13⟩, ⟨32, 32⟩]

def wordChars (f : Flags) : CharSet :=
  if f.unicode then Text.wordSet
  else .ofIntervals [⟨48, 57⟩, ⟨65, 90⟩, ⟨95, 95⟩, ⟨97, 122⟩]

end Flags

end Provisioning.Pattern
