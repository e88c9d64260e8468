import Provisioning.Text.Property

/-!
Patterns: what a regular expression says, with all its flags resolved.

`Anchor` is a condition on the place between two characters, and `Pattern` a regular expression over
sets of characters and anchors. `Pattern.Spans` defines which stretches of a text a pattern matches.
-/

namespace Provisioning

/-- A condition on the place between two characters. Word boundaries come with the rule for what
belongs to a word: all of Unicode, or ASCII alone. -/
inductive Anchor where
  | textStart
  | textEnd
  | lineStart
  | lineEnd
  /-- Like `lineStart`, where a carriage return and a line feed together end one line. -/
  | lineStartCrlf
  | lineEndCrlf
  | wordBoundary (unicode : Bool)
  | notWordBoundary (unicode : Bool)
  | wordStart (unicode : Bool)
  | wordEnd (unicode : Bool)
  /-- No word character stands before. -/
  | wordStartHalf (unicode : Bool)
  /-- No word character stands after. -/
  | wordEndHalf (unicode : Bool)
  deriving DecidableEq, Repr

namespace Anchor

def inWord (unicode : Bool) : Option Char → Bool
  | none => false
  | some c => if unicode then Text.wordSet.contains c.toNat else c.isAlphanum || c == '_'

def holds (a : Anchor) (before after : Option Char) : Bool :=
  match a with
  | textStart => before.isNone
  | textEnd => after.isNone
  | lineStart => before.isNone || before == some '\n'
  | lineEnd => after.isNone || after == some '\n'
  | lineStartCrlf =>
    before.isNone || before == some '\n' || (before == some '\r' && after != some '\n')
  | lineEndCrlf =>
    after.isNone || after == some '\r' || (after == some '\n' && before != some '\r')
  | wordBoundary u => inWord u before != inWord u after
  | notWordBoundary u => inWord u before == inWord u after
  | wordStart u => !inWord u before && inWord u after
  | wordEnd u => inWord u before && !inWord u after
  | wordStartHalf u => !inWord u before
  | wordEndHalf u => !inWord u after

end Anchor

inductive Pattern where
  /-- Matches nothing but the empty text. -/
  | empty
  /-- One character of a set. -/
  | char (set : CharSet)
  | anchor (a : Anchor)
  | seq (p q : Pattern)
  | alt (p q : Pattern)
  /-- At least `least` repetitions, and at most so many more if that is given. -/
  | rep (p : Pattern) (least : Nat) (more : Option Nat)
  deriving DecidableEq, Repr

namespace Pattern

def before (text : List Char) (i : Nat) : Option Char :=
  match i with
  | 0 => none
  | i + 1 => text[i]?

mutual

/-- A pattern matches a text from one place to another. -/
inductive Spans (text : List Char) : Pattern → Nat → Nat → Prop where
  | empty {i : Nat} : i ≤ text.length → Spans text .empty i i
  | char {set : CharSet} {i : Nat} {c : Char} :
    text[i]? = some c → set.contains c.toNat = true → Spans text (.char set) i (i + 1)
  | anchor {a : Anchor} {i : Nat} :
    i ≤ text.length → a.holds (before text i) text[i]? = true → Spans text (.anchor a) i i
  | seq {p q : Pattern} {i j k : Nat} :
    Spans text p i j → Spans text q j k → Spans text (.seq p q) i k
  | altLeft {p q : Pattern} {i j : Nat} : Spans text p i j → Spans text (.alt p q) i j
  | altRight {p q : Pattern} {i j : Nat} : Spans text q i j → Spans text (.alt p q) i j
  | rep {p : Pattern} {least n : Nat} {more : Option Nat} {i j : Nat} :
    least ≤ n → (∀ m ∈ more, n ≤ least + m) → Repeats text p n i j →
    Spans text (.rep p least more) i j

/-- So many matches of a pattern, one after the other. -/
inductive Repeats (text : List Char) : Pattern → Nat → Nat → Nat → Prop where
  | none {p : Pattern} {i : Nat} : i ≤ text.length → Repeats text p 0 i i
  | more {p : Pattern} {n i j k : Nat} :
    Repeats text p n i j → Spans text p j k → Repeats text p (n + 1) i k

end

/-- Some stretch of the text is matched. -/
def Finds (p : Pattern) (text : List Char) : Prop := ∃ i j, Spans text p i j

/-- The text as a whole is matched. -/
def MatchesWhole (p : Pattern) (text : List Char) : Prop := Spans text p 0 text.length

end Pattern

end Provisioning
