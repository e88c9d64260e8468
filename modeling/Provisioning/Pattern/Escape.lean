import Provisioning.Pattern.Flags

/-!
Escapes of regular expressions.

What follows a backslash is a literal, a set of characters or an anchor. Every other letter or digit
after a backslash is refused, so that no escape is ever silently taken for the letter itself.
-/

namespace Provisioning.Pattern

/-- What one element of a regular expression denotes. -/
inductive Atom where
  /-- A character, and whether it was written as a byte. -/
  | literal (c : Char) (byte : Bool)
  | set (s : CharSet)
  | anchor (a : Anchor)
  deriving DecidableEq, Repr

def charOf? (n : Nat) : Option Char :=
  if h : n.isValidChar then some (Char.ofNatAux n h) else none

/-- Reads so many hexadecimal digits after the number read so far. -/
def hexDigits? (f : Flags) : Nat → Nat → List Char → Option (Nat × List Char)
  | 0, value, cs => some (value, cs)
  | _ + 1, _, [] => none
  | missing + 1, value, c :: rest =>
    (Text.hexDigit? c).bind fun d => hexDigits? f missing (value * 16 + d) (f.skip rest)

/-- Reads the code point of a hexadecimal escape of so many digits, or of any number of digits
between braces. Two digits without braces are a byte. -/
def hexEscape? (f : Flags) (width : Nat) (cs : List Char) : Option (Atom × List Char) :=
  match f.skip cs with
  | '\x7b' :: rest => do
    let (ds, rest) ← f.braced? false rest
    if ds ≠ [] ∧ ds.all fun c => (Text.hexDigit? c).isSome then
      let c ← charOf? (Text.hexValue ds)
      return (.literal c false, f.skip rest)
    else none
  | rest => do
    let (n, rest) ← hexDigits? f width 0 rest
    let c ← charOf? n
    return (.literal c (width == 2), rest)

def splitAt? (sign : List Char) : List Char → Option (List Char × List Char)
  | [] => none
  | c :: rest =>
    if sign.isPrefixOf (c :: rest) then some ([], (c :: rest).drop sign.length)
    else (splitAt? sign rest).map fun (before, after) => (c :: before, after)

/-- The property that a name in braces stands for. The name may be that of a category after a key
and a sign; a sign for inequality counts as one for equality. -/
def propertyOf? (cs : List Char) : Option Text.Property :=
  match (splitAt? ['!', '='] cs).or ((splitAt? [':'] cs).or (splitAt? ['='] cs)) with
  | none => Text.Property.ofName? cs
  | some (key, value) =>
    let key := String.ofList (Text.Property.foldName key)
    if key == "gc" || key == "generalcategory" then
      (Text.Property.ofName? value).filter (·.isCategoryValue)
    else none

def propertyEscape? (f : Flags) (negated : Bool) (cs : List Char) : Option (Atom × List Char) :=
  if !f.unicode then none
  else match f.skip cs with
    | [] => none
    | '\\' :: _ => none
    | '\x7b' :: rest => do
      let (name, rest) ← f.braced? false rest
      let p ← propertyOf? name
      return (.set (f.orNot negated (f.foldCase p.members)), rest)
    | c :: rest => do
      let p ← Text.Property.ofName? [c]
      return (.set (f.orNot negated (f.foldCase p.members)), f.skip rest)

/-- The anchor with a name between braces. -/
def namedBoundary? (unicode : Bool) (name : List Char) : Option Anchor :=
  let word := String.ofList name
  if word = "start" then some (.wordStart unicode)
  else if word = "end" then some (.wordEnd unicode)
  else if word = "start-half" then some (.wordStartHalf unicode)
  else if word = "end-half" then some (.wordEndHalf unicode)
  else none

/-- Reads a word boundary. A name between braces may follow; braces around anything else are a
repetition. -/
def boundaryEscape? (f : Flags) (cs : List Char) : Option (Atom × List Char) :=
  match cs with
  | '\x7b' :: rest =>
    match f.skip rest with
    | [] => none
    | c :: _ =>
      if c.isAlpha ∨ c = '-' then do
        let (name, rest) ← f.braced? false rest
        let a ← namedBoundary? f.unicode name
        return (.anchor a, rest)
      else some (.anchor (.wordBoundary f.unicode), cs)
  | _ => some (.anchor (.wordBoundary f.unicode), cs)

def escape? (f : Flags) (cs : List Char) : Option (Atom × List Char) :=
  match cs with
  | [] => none
  | c :: rest =>
    match c with
    | 'x' => hexEscape? f 2 rest
    | 'u' => hexEscape? f 4 rest
    | 'U' => hexEscape? f 8 rest
    | 'p' => propertyEscape? f false rest
    | 'P' => propertyEscape? f true rest
    | 'd' => some (.set f.digits, rest)
    | 'D' => some (.set (f.complement f.digits), rest)
    | 's' => some (.set f.blanks, rest)
    | 'S' => some (.set (f.complement f.blanks), rest)
    | 'w' => some (.set f.wordChars, rest)
    | 'W' => some (.set (f.complement f.wordChars), rest)
    | 'a' => some (.literal '\x07' false, rest)
    | 'f' => some (.literal '\x0c' false, rest)
    | 't' => some (.literal '\t' false, rest)
    | 'n' => some (.literal '\n' false, rest)
    | 'r' => some (.literal '\r' false, rest)
    | 'v' => some (.literal '\x0b' false, rest)
    | 'A' => some (.anchor .textStart, rest)
    | 'z' => some (.anchor .textEnd, rest)
    | 'b' => boundaryEscape? f rest
    | 'B' => some (.anchor (.notWordBoundary f.unicode), rest)
    | '<' => some (.anchor (.wordStart f.unicode), rest)
    | '>' => some (.anchor (.wordEnd f.unicode), rest)
    | c => if c.toNat < 128 ∧ ¬ c.isAlphanum then some (.literal c false, rest) else none

end Provisioning.Pattern
