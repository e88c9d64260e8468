import Provisioning.Pattern.Escape

/-!
Bracketed classes of regular expressions.

A class lists characters, ranges, escapes, named ASCII classes and further classes. `&&`, `--` and
`~~` combine what stands on both sides, from left to right. Hyphens at the start and a bracket right
after them stand for themselves.

The nesting of classes counts against a limit, so a class comes with its depth: each pair of
brackets, each list of several items and each operation is one level.
-/

namespace Provisioning.Pattern

/-- What a class or a part of one denotes, and how deeply it is nested. -/
structure ClassPart where
  set : CharSet
  depth : Nat
  deriving DecidableEq, Repr

/-- What has been listed of a class: how many items, their union, and the depth of the deepest. -/
structure Listing where
  count : Nat
  set : CharSet
  depth : Nat
  deriving DecidableEq, Repr

namespace Listing

def empty : Listing := ⟨0, .none, 0⟩

def add (l : Listing) (item : ClassPart) : Listing :=
  ⟨l.count + 1, l.set.union item.set, max l.depth item.depth⟩

/-- Lists one more item that holds no further class. -/
def addSet (l : Listing) (s : CharSet) : Listing := l.add ⟨s, 0⟩

def part (l : Listing) : ClassPart := ⟨l.set, if l.count < 2 then l.depth else l.depth + 1⟩

end Listing

inductive SetOp where
  | inter
  | diff
  | symmetricDiff
  deriving DecidableEq, Repr

def SetOp.apply (op : SetOp) (f : Flags) (a b : CharSet) : CharSet :=
  let a := f.foldCase a
  let b := f.foldCase b
  match op with
  | .inter => a.inter b
  | .diff => a.diff b
  | .symmetricDiff => a.symmetricDiff b

namespace Bracket

/-- A class or an operation in progress. -/
inductive Frame where
  /-- A class inside what has been listed of the class around it. -/
  | nested (around : Listing) (negated : Bool)
  /-- An operation that has its left side. -/
  | op (op : SetOp) (left : ClassPart)

/-- The ASCII classes with names. -/
def named? (name : String) : Option CharSet :=
  let lower := CharSet.range 97 122
  let upper := CharSet.range 65 90
  let digit := CharSet.range 48 57
  let letter := upper.union lower
  match name with
  | "alnum" => some (digit.union letter)
  | "alpha" => some letter
  | "ascii" => some (.range 0 127)
  | "blank" => some (.ofIntervals [⟨9, 9⟩, ⟨32, 32⟩])
  | "cntrl" => some (.ofIntervals [⟨0, 31⟩, ⟨127, 127⟩])
  | "digit" => some digit
  | "graph" => some (.range 33 126)
  | "lower" => some lower
  | "print" => some (.range 32 126)
  | "punct" =>
    some (.ofIntervals [⟨33, 47⟩, ⟨58, 64⟩, ⟨91, 96⟩, ⟨123, 126⟩])
  | "space" => some (.ofIntervals [⟨9, 13⟩, ⟨32, 32⟩])
  | "upper" => some upper
  | "word" => some (.unions [digit, letter, .single '_'])
  | "xdigit" => some (.ofIntervals [⟨48, 57⟩, ⟨65, 70⟩, ⟨97, 102⟩])
  | _ => none

def namedClass? (f : Flags) (cs : List Char) : Option (CharSet × List Char) :=
  match cs with
  | ':' :: rest =>
    let negated := rest.head? == some '^'
    let rest := if negated then rest.drop 1 else rest
    let name := rest.takeWhile (· != ':')
    match rest.drop name.length with
    | ':' :: ']' :: rest =>
      (named? (String.ofList name)).map fun s => (f.orNot negated (f.foldCase s), rest)
    | _ => none
  | _ => none

def leadingHyphens (f : Flags) : Nat → Listing → List Char → Listing × List Char
  | 0, l, cs => (l, cs)
  | fuel + 1, l, cs =>
    match cs with
    | '-' :: rest => leadingHyphens f fuel (l.addSet (.single '-')) (f.skip rest)
    | _ => (l, cs)

/-- Reads what may stand right after an opening bracket: the sign of negation, hyphens, and a
closing bracket that stands for itself. -/
def opening (f : Flags) (cs : List Char) : Bool × Listing × List Char :=
  let cs := f.skip cs
  let negated := cs.head? == some '^'
  let cs := if negated then f.skip (cs.drop 1) else cs
  let (l, cs) := leadingHyphens f cs.length .empty cs
  match l.count, cs with
  | 0, ']' :: rest => (negated, l.addSet (.single ']'), f.skip rest)
  | _, cs => (negated, l, cs)

def element? (f : Flags) (cs : List Char) : Option (Atom × List Char) :=
  match cs with
  | [] => none
  | '\\' :: rest => escape? f rest
  | c :: rest => some (.literal c false, rest)

def point? (f : Flags) (a : Atom) : Option Nat :=
  match a with
  | .literal c byte =>
    (f.literal? c byte).bind fun c =>
      if f.unicode || c.toNat < 128 then some c.toNat else none
  | _ => none

/-- The set of an element, if it may be used. Anchors have none. -/
def setOf? (f : Flags) (a : Atom) : Option CharSet :=
  match a with
  | .set s => f.admitted? s
  | .anchor _ => none
  | a => (point? f a).map fun n => .range n n

/-- The character that decides whether a hyphen makes a range. In extended mode it is the first one
that is not blank, where a number sign is passed over once, but not the comment that it begins. -/
def deciding? (f : Flags) (cs : List Char) : Option Char :=
  if f.extended then
    match Text.skipBlanks cs with
    | '#' :: rest => (Text.skipBlanks rest).head?
    | rest => rest.head?
  else cs.head?

def range? (f : Flags) (cs : List Char) : Option (CharSet × List Char) := do
  let (first, rest) ← element? f cs
  let single := fun rest => (setOf? f first).map fun s => (s, rest)
  match f.skip rest with
  | '-' :: rest =>
    match deciding? f rest with
    | some ']' => single ('-' :: rest)
    | some '-' => single ('-' :: rest)
    | _ =>
      let (last, rest) ← element? f (f.skip rest)
      let low ← point? f first
      let high ← point? f last
      if low ≤ high then return (.range low high, rest) else none
  | rest => single rest

def endOp (f : Flags) (right : ClassPart) : List Frame → ClassPart × List Frame
  | .op op left :: frames =>
    (⟨op.apply f left.set right.set, max left.depth right.depth + 1⟩, frames)
  | frames => (right, frames)

/-- Reads on inside a class, up to the bracket that closes the outermost one. -/
def body? (f : Flags) : Nat → List Frame → Listing → List Char → Option (ClassPart × List Char)
  | 0, _, _, _ => none
  | fuel + 1, frames, listed, cs =>
    let operation := fun op rest =>
      let (left, frames) := endOp f listed.part frames
      body? f fuel (.op op left :: frames) .empty rest
    match f.skip cs with
    | [] => none
    | '[' :: rest =>
      match namedClass? f rest with
      | some (s, rest) => do
        let s ← f.admitted? s
        body? f fuel frames (listed.addSet s) rest
      | none =>
        let (negated, inside, rest) := opening f rest
        body? f fuel (.nested listed negated :: frames) inside rest
    | ']' :: rest =>
      let (inside, frames) := endOp f listed.part frames
      match frames with
      | .nested around negated :: outer => do
        let s ← f.admitted? (f.orNot negated (f.foldCase inside.set))
        let closed : ClassPart := ⟨s, inside.depth + 1⟩
        if outer.isEmpty then some (closed, rest) else body? f fuel outer (around.add closed) rest
      | _ => none
    | '&' :: '&' :: rest => operation .inter rest
    | '-' :: '-' :: rest => operation .diff rest
    | '~' :: '~' :: rest => operation .symmetricDiff rest
    | rest => do
      let (s, rest) ← range? f rest
      body? f fuel frames (listed.addSet s) rest

end Bracket

def bracket? (f : Flags) (cs : List Char) : Option (ClassPart × List Char) :=
  let (negated, inside, rest) := Bracket.opening f cs
  Bracket.body? f (cs.length + 1) [.nested .empty negated] inside rest

end Provisioning.Pattern
