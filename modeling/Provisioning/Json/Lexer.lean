import Provisioning.Json.Numeral
import Provisioning.Text.CodePoints

/-!
The tokens of a JSON text, read in one pass.

The scan holds what it is in the middle of; every character moves it on and may complete tokens.
A string whose escapes name half of a surrogate pair, and a number beyond the finite range, are
tokens all the same: they are only refused where their value is wanted.
-/

namespace Provisioning

namespace Json

/-- A token. A string carries its value, if it has one. -/
inductive Token where
  | openArray
  | closeArray
  | openObject
  | closeObject
  | comma
  | colon
  | null
  | bool (b : Bool)
  | number (n : Numeral)
  | string (s : Option String)

namespace Lexer

/-- A string in progress: the characters so far, newest first, a leading surrogate that waits for
its other half, and whether every escape so far made sense. -/
structure Fragment where
  read : List Char
  half : Option Nat
  whole : Bool

namespace Fragment

/-- A string of which nothing has been read. -/
def start : Fragment := ⟨[], none, true⟩

def push (t : Fragment) (c : Char) : Fragment :=
  { read := c :: t.read, half := none, whole := t.whole && t.half.isNone }

/-- Adds an escaped unit of 16 bits; a surrogate counts only together with its other half. -/
def pushUnit (t : Fragment) (unit : Nat) : Fragment :=
  if 0xD800 ≤ unit ∧ unit < 0xDC00 then
    { read := t.read, half := some unit, whole := t.whole && t.half.isNone }
  else if 0xDC00 ≤ unit ∧ unit < 0xE000 then
    match t.half with
    | some high =>
      let c := Char.ofNat (0x10000 + (high - 0xD800) * 0x400 + (unit - 0xDC00))
      { read := c :: t.read, half := none, whole := t.whole }
    | none => { t with whole := false }
  else t.push (Char.ofNat unit)

/-- The finished string, if it is one. -/
def finish (t : Fragment) : Option String :=
  if t.whole && t.half.isNone then some (String.ofList t.read.reverse) else none

end Fragment

/-- What the scan is in the middle of. -/
inductive Mode where
  | between
  /-- A word of letters, newest first. -/
  | word (read : List Char)
  /-- The characters of a number, newest first. -/
  | numeral (read : List Char)
  | text (t : Fragment)
  | escape (t : Fragment)
  /-- The digits of an escaped unit, so many still to come. -/
  | unit (t : Fragment) (missing : Nat) (value : Nat)

/-- Whether a character is one of the blanks allowed between tokens. -/
def isGap (c : Char) : Bool := c == ' ' || c == '\n' || c == '\t' || c == '\r'

def isNumeral (c : Char) : Bool :=
  isDigit c || c == '-' || c == '+' || c == '.' || c == 'e' || c == 'E'

def isWord (c : Char) : Bool := 'a' ≤ c && c ≤ 'z'

def word? (cs : List Char) : Option Token :=
  if cs = ['n', 'u', 'l', 'l'] then some .null
  else if cs = ['t', 'r', 'u', 'e'] then some (.bool true)
  else if cs = ['f', 'a', 'l', 's', 'e'] then some (.bool false)
  else none

def numeral? (cs : List Char) : Option Token := (Numeral.ofChars? cs).map .number

/-- Starts on a character that belongs to no token yet. -/
def start (c : Char) : Option (Mode × List Token) :=
  match c with
  | '[' => some (.between, [.openArray])
  | ']' => some (.between, [.closeArray])
  | '\x7b' => some (.between, [.openObject])
  | '\x7d' => some (.between, [.closeObject])
  | ',' => some (.between, [.comma])
  | ':' => some (.between, [.colon])
  | '"' => some (.text .start, [])
  | c =>
    if isGap c then some (.between, [])
    else if isWord c then some (.word [c], [])
    else if isNumeral c then some (.numeral [c], [])
    else none

/-- The character that a short escape stands for. -/
def shortEscape? : Char → Option Char
  | '"' => some '"'
  | '\\' => some '\\'
  | '/' => some '/'
  | 'b' => some '\x08'
  | 'f' => some '\x0c'
  | 'n' => some '\n'
  | 'r' => some '\r'
  | 't' => some '\t'
  | _ => none

/-- Moves the scan over one character. -/
def step (mode : Mode) (c : Char) : Option (Mode × List Token) :=
  match mode with
  | .between => start c
  | .word read =>
    if isWord c then some (.word (c :: read), [])
    else do
      let token ← word? read.reverse
      let (mode, tokens) ← start c
      return (mode, token :: tokens)
  | .numeral read =>
    if isNumeral c then some (.numeral (c :: read), [])
    else do
      let token ← numeral? read.reverse
      let (mode, tokens) ← start c
      return (mode, token :: tokens)
  | .text t =>
    if c = '"' then some (.between, [.string t.finish])
    else if c = '\\' then some (.escape t, [])
    else if c.toNat < 0x20 then none
    else some (.text (t.push c), [])
  | .escape t =>
    if c = 'u' then some (.unit t 4 0, [])
    else (shortEscape? c).map fun d => (.text (t.push d), [])
  | .unit t missing value =>
    (Text.hexDigit? c).map fun d =>
      let value := value * 16 + d
      if missing ≤ 1 then (.text (t.pushUnit value), []) else (.unit t (missing - 1) value, [])

def finish : Mode → Option (List Token)
  | .between => some []
  | .word read => (word? read.reverse).map ([·])
  | .numeral read => (numeral? read.reverse).map ([·])
  | _ => none

/-- The tokens of the characters that follow, from a point in the middle of the scan. -/
def tokensFrom (mode : Mode) : List Char → Option (List Token)
  | [] => finish mode
  | c :: rest => do
    let (mode, done) ← step mode c
    let more ← tokensFrom mode rest
    return done ++ more

end Lexer

def tokens? (cs : List Char) : Option (List Token) := Lexer.tokensFrom .between cs

end Json

end Provisioning
