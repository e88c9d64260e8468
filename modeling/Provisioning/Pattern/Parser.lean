import Provisioning.Pattern.Bracket
import Provisioning.Pattern.Expression

/-!
Regular expressions read from texts.

The reader walks over the text once and keeps the groups that are open. A flag directive holds to
the end of its group, also across the bars between alternatives. Look-around and references to
groups are refused: no pattern needs more time than its length times the length of the text.
-/

namespace Provisioning.Pattern

/-- A group in progress, or the whole expression. -/
structure Level where
  /-- The number of the group, if it has one. -/
  number : Option Nat
  /-- The alternatives before the current one, last first. -/
  branches : List Expression
  /-- The elements of the current alternative, last first. -/
  items : List Expression
  /-- The flags in force outside of the group. -/
  around : Flags

namespace Level

/-- A group of which nothing has been read. -/
def start (number : Option Nat) (around : Flags) : Level := ⟨number, [], [], around⟩

def push (l : Level) (e : Expression) : Level := { l with items := e :: l.items }

def current (l : Level) : Expression := .ofRow l.items.reverse

def bar (l : Level) : Level := { l with branches := l.current :: l.branches, items := [] }

/-- What stands in the group. -/
def close (l : Level) : Expression := .ofChoice (l.current :: l.branches).reverse

/-- Repeats the last element; there has to be one, and it must not be a directive. -/
def repeatLast? (l : Level) (least : Nat) (more : Option Nat) (lazy : Bool) : Option Level :=
  match l.items with
  | [] => none
  | .directive :: _ => none
  | e :: items => some { l with items := .repeated e least more lazy :: items }

end Level

/-- The number that digits denote, blanks around them apart, if it fits into 32 bits. -/
def count? (cs : List Char) : Option Nat :=
  let ds := (Text.skipBlanks (Text.skipBlanks cs).reverse).reverse
  let n := Text.decimalValue ds
  if ds ≠ [] ∧ ds.all Char.isDigit ∧ n < 0x100000000 then some n else none

/-- The bounds of a repetition between braces: the least number, and how many more there may be. -/
def bounds? (cs : List Char) : Option (Nat × Option Nat) := do
  let first := cs.takeWhile (· != ',')
  let least ← count? first
  match cs.drop first.length with
  | [] => return (least, some 0)
  | [_] => return (least, none)
  | _ :: last =>
    let most ← count? last
    if least ≤ most then return (least, some (most - least)) else none

/-- Reads the sign of a lazy repetition, if it stands there. -/
def lazySign : List Char → Bool × List Char
  | '?' :: rest => (true, rest)
  | cs => (false, cs)

/-- Reads the flags of a group up to a colon or a closing parenthesis, after those read so far, last
first. No flag may occur twice, and something has to follow the sign that switches flags off. -/
def flagItems? (read : List (Option Flag)) :
    List Char → Option (List (Option Flag) × Char × List Char)
  | [] => none
  | c :: rest =>
    if c = ':' ∨ c = ')' then
      if read.head? = some none then none else some (read.reverse, c, rest)
    else do
      let item ← if c = '-' then some none else (Flag.ofChar? c).map some
      if read.contains item then none else flagItems? (item :: read) rest

def groupName? (cs : List Char) : Option (List Char × List Char) :=
  let name := cs.takeWhile (· != '>')
  let isNameChar := fun c =>
    c == '_' || c == '.' || c == '[' || c == ']' || Text.isAlphabetic c || Text.isNumeric c
  match name, cs.drop name.length with
  | c :: more, _ :: rest =>
    if (c == '_' || Text.isAlphabetic c) && more.all isNameChar then some (name, rest) else none
  | _, _ => none

/-- What the text after an opening parenthesis begins. -/
inductive Opening where
  /-- A group with a name and a number. -/
  | named (name : List Char)
  /-- A group with a number. -/
  | numbered
  /-- A group without a number, under the given flags. -/
  | plain (f : Flags)
  /-- A directive that changes the flags. -/
  | directive (f : Flags)

def opening? (f : Flags) (cs : List Char) : Option (Opening × List Char) :=
  match f.skip cs with
  | '?' :: '=' :: _ => none
  | '?' :: '!' :: _ => none
  | '?' :: '<' :: '=' :: _ => none
  | '?' :: '<' :: '!' :: _ => none
  | '?' :: 'P' :: '<' :: rest => (groupName? rest).map fun (name, rest) => (.named name, rest)
  | '?' :: '<' :: rest => (groupName? rest).map fun (name, rest) => (.named name, rest)
  | '?' :: rest => do
    let (items, last, rest) ← flagItems? [] rest
    if last = ':' then return (.plain (f.apply items), rest)
    else if items = [] then none
    else return (.directive (f.apply items), rest)
  | rest => some (.numbered, rest)

def setExpression? (f : Flags) (s : CharSet) (depth : Nat) : Option Expression :=
  (f.admitted? s).map fun s => .set s depth

def atomExpression? (f : Flags) : Atom → Option Expression
  | .literal c byte => (f.literalSet? c byte).map fun s => .set s 0
  | .set s => setExpression? f s 0
  | .anchor a => some (.anchor a)

/-- The numbered groups so far: how many there are, and the names of those that have one. -/
structure Groups where
  count : Nat
  names : List (List Char)

/-- Reads on: the flags in force, the groups so far, the one in progress and those around it. Every
round reads at least one character, so the first argument bounds them. -/
def expression? : Nat → Flags → Groups → Level → List Level → List Char → Option Expression
  | 0, _, _, _, _, _ => none
  | fuel + 1, f, groups, level, outer, cs =>
    let pushed := fun (e? : Option Expression) rest =>
      e?.bind fun e => expression? fuel f groups (level.push e) outer rest
    let repeated := fun (least : Nat) (more : Option Nat) (rest : List Char) =>
      let (lazy, rest) := lazySign rest
      (level.repeatLast? least more (lazy != f.swapGreed)).bind fun level =>
        expression? fuel f groups level outer rest
    match f.skip cs with
    | [] => if outer.isEmpty then some level.close else none
    | '(' :: rest => do
      let (opening, rest) ← opening? f rest
      let inside := Level.start (some (groups.count + 1)) f
      match opening with
      | .named name =>
        if groups.names.contains name then none
        else
          expression? fuel f ⟨groups.count + 1, name :: groups.names⟩ inside (level :: outer) rest
      | .numbered =>
        expression? fuel f { groups with count := groups.count + 1 } inside (level :: outer) rest
      | .plain g => expression? fuel g groups (.start none f) (level :: outer) rest
      | .directive g => expression? fuel g groups (level.push .directive) outer rest
    | ')' :: rest =>
      match outer with
      | [] => none
      | up :: more =>
        expression? fuel level.around groups (up.push (.group level.number level.close)) more rest
    | '|' :: rest => expression? fuel f groups level.bar outer rest
    | '[' :: rest => do
      let (part, rest) ← bracket? f rest
      pushed (setExpression? f part.set part.depth) rest
    | '?' :: rest => repeated 0 (some 1) rest
    | '*' :: rest => repeated 0 none rest
    | '+' :: rest => repeated 1 none rest
    | '\x7b' :: rest => do
      let (inside, rest) ← f.braced? false rest
      let (least, more) ← bounds? inside
      repeated least more (f.skip rest)
    | '\\' :: rest => do
      let (atom, rest) ← escape? f rest
      pushed (atomExpression? f atom) rest
    | '.' :: rest => pushed (f.dotSet?.map fun s => .set s 0) rest
    | '^' :: rest => pushed (some (.anchor f.caret)) rest
    | '$' :: rest => pushed (some (.anchor f.dollar)) rest
    | c :: rest => pushed (atomExpression? f (.literal c false)) rest

def Expression.ofChars? (cs : List Char) : Option Expression :=
  expression? (cs.length + 1) {} ⟨0, []⟩ (.start none {}) [] cs

def Expression.ofText? (s : String) : Option Expression := ofChars? s.toList

example : (Expression.ofText? "a\x7b1,2\x7d").map Expression.pattern =
    some (.rep (.char (.single 'a')) 1 (some 1)) := by decide +kernel

example : ((Expression.ofText? "a\x7b,2\x7d").or (Expression.ofText? "(?=a)")).isNone = true := by
  decide +kernel

example : (Expression.ofText? "^(?:[[a]b]|c+)$").map Expression.depth = some 6 := by decide +kernel

end Provisioning.Pattern
