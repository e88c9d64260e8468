import Provisioning.Pattern.Form
import Provisioning.Text.Utf8
import Std.Data.TreeMap

/-!
The sizes of the automata of patterns.

A pattern is searched for by automata over bytes, one that reads forward and one that reads
backward. A pattern is refused if one of them takes more than ten mebibytes. What counts is the
number of states and the room for the branches of each, so the states are not built but tallied;
`Form.fits` says whether both automata stay within the limit.

A set is built from the UTF-8 forms of its members, and states that read the same bytes toward the
same states are shared. Which of them are remembered depends on their numbers: there is a fixed
number of slots, and a state takes the slot of its code from the state that had it before.
-/

namespace Provisioning.Pattern

/-- What has been built: the number of states, which is the number of the next one too, and the
bytes that their branches take. -/
structure Tally where
  states : Nat
  branches : Nat
  deriving DecidableEq, Repr

namespace Tally

def bytes (t : Tally) : Nat := 32 * t.states + t.branches

def limit : Nat := 10 * 1024 * 1024

/-- Something that has been built, if it is not too large. -/
def checked? (t : Tally) : Option Tally := if t.bytes ≤ limit then some t else none

/-- Adds a state with so many byte ranges, each of which leads to another state. -/
def addState? (t : Tally) (ranges : Nat) : Option Tally :=
  checked? ⟨t.states + 1, t.branches + 8 * ranges⟩

/-- Adds so many branches to states that fork. -/
def addBranches? (t : Tally) (n : Nat) : Option Tally :=
  checked? { t with branches := t.branches + 4 * n }

def addBytes? (t : Tally) (n : Nat) : Option Tally := checked? { t with states := t.states + n }

/-- Leads on from the last state of a part; only a state that forks needs a branch for it. -/
def leadOn? (t : Tally) (forks : Bool) : Option Tally := if forks then t.addBranches? 1 else some t

end Tally

inductive Direction where
  | forward
  | backward
  deriving DecidableEq, Repr

namespace Automaton

/-! ### Sets -/

def mix (code : UInt64) (n : Nat) : UInt64 := (code ^^^ n.toUInt64) * 0x100000001B3

def emptyCode : UInt64 := 0xCBF29CE484222325

/-- The branches of a state: ranges of bytes, each with the state that it leads to. -/
abbrev Branches := List (Interval × Nat)

/-- The slot of a state among ten thousand. -/
def forwardSlot (bs : Branches) : Nat :=
  let code := bs.foldl (fun code (i, n) => mix (mix (mix code i.first) i.last) n) emptyCode
  (code % 10000).toNat

/-- A set in progress: all that has been built, and the states that are remembered. -/
structure SetTally (κ : Type) where
  tally : Tally
  slots : Std.TreeMap Nat (κ × Nat)

/-- The state with the given branches: the one remembered, or a new one. -/
def stateWith? (t : SetTally Branches) (bs : Branches) : Option (Nat × SetTally Branches) :=
  let slot := forwardSlot bs
  let new := fun (_ : Unit) => (t.tally.addState? bs.length).map fun tally =>
    (t.tally.states, ⟨tally, t.slots.insert slot (bs, t.tally.states)⟩)
  match t.slots[slot]? with
  | some (bs', number) => if bs' == bs then some (number, t) else new ()
  | none => new ()

/-- The state from which sequences of at most so many byte ranges lead to a target. Sequences that
begin alike share a branch. -/
def sequencesFrom? (target : Nat) :
    Nat → List (List Interval) → SetTally Branches → Option (Nat × SetTally Branches)
  | 0, _, t => some (target, t)
  | longest + 1, sequences, t => do
    let groups := sequences.splitBy fun a b => a.head? == b.head?
    let (bs, t) ← groups.foldlM
      (fun (acc : Branches × SetTally Branches) group =>
        match group with
        | [i] :: _ => some ((i, target) :: acc.1, acc.2)
        | (i :: _) :: _ =>
          (sequencesFrom? target longest (group.map (·.drop 1)) acc.2).map fun (number, t) =>
            ((i, number) :: acc.1, t)
        | _ => some acc)
      ([], t)
    stateWith? t bs.reverse

/-- The slot among a thousand of a state that reads a byte range on the way to another state. -/
def backwardSlot (i : Interval) (target : Nat) : Nat :=
  (mix (mix (mix emptyCode target) i.first) i.last % 1000).toNat

/-- The state that reads a byte range on the way to another state: the one remembered, or a new
one. -/
def stateToward? (t : SetTally (Interval × Nat)) (i : Interval) (target : Nat) :
    Option (Nat × SetTally (Interval × Nat)) :=
  let slot := backwardSlot i target
  let new := fun (_ : Unit) => (t.tally.addState? 0).map fun tally =>
    (t.tally.states, ⟨tally, t.slots.insert slot ((i, target), t.tally.states)⟩)
  match t.slots[slot]? with
  | some (key, number) => if key == (i, target) then some (number, t) else new ()
  | none => new ()

/-- Builds a set. One within ASCII is a single state before its end. Forward, the states of the
sequences lead to the end, and backward a state forks to the last byte of every sequence. -/
def set? (d : Direction) (s : CharSet) (t : Tally) : Option Tally := do
  if s.isBelow 128 then
    (← t.addState? 0).addState? s.intervals.length
  else
    let sequences := s.intervals.flatMap Text.Utf8.sequences
    match d with
    | .forward =>
      let (_, built) ← sequencesFrom? t.states 4 sequences ⟨← t.addState? 0, ∅⟩
      return built.tally
    | .backward =>
      let built ← sequences.foldlM
        (fun (t' : SetTally (Interval × Nat)) sequence => do
          let (_, t') ← sequence.foldlM
            (fun (target, t') i => stateToward? t' i target) (t.states + 1, t')
          return { t' with tally := ← t'.tally.addBranches? 1 })
        (⟨← t.addBytes? 2, ∅⟩ : SetTally (Interval × Nat))
      return built.tally

/-! ### Literals -/

/-- A tree of literals. Behind a byte come those literals that share it; a literal that ends within
the tree closes the branches before it. -/
inductive Tree where
  | node (closed : List (List (Nat × Tree))) (opened : List (Nat × Tree))

namespace Tree

def empty : Tree := node [] []

def isLeaf : Tree → Bool
  | node closed opened => closed.all List.isEmpty && opened.isEmpty

/-- The subtree behind a byte. -/
def behind (b : Nat) (opened : List (Nat × Tree)) : Tree := (opened.lookup b).getD empty

def replace (b : Nat) (tree : Tree) (opened : List (Nat × Tree)) : List (Nat × Tree) :=
  if (opened.lookup b).isSome then opened.map fun (b', t) => if b' = b then (b, tree) else (b', t)
  else opened ++ [(b, tree)]

def add : List Nat → Tree → Tree
  | [], node closed opened =>
    if (node closed opened).isLeaf && !closed.isEmpty then node closed opened
    else node (closed ++ [opened]) []
  | b :: bs, node closed opened => node closed (replace b (add bs (behind b opened)) opened)

/-- Adds the state of so many branches, if there are any, and counts it. -/
def addPart? (branches : Nat) (t : Tally) (n : Nat) : Option (Tally × Nat) :=
  match branches with
  | 0 => some (t, n)
  | 1 => (t.addState? 0).map (·, n + 1)
  | k => (t.addState? k).map (·, n + 1)

mutual

/-- Builds the states of a tree: one for the branches up to each end of a literal, and one that
forks to them. -/
def build? : Tree → Tally → Option Tally
  | node closed opened, t => do
    let (t, n) ← buildClosed? closed t 0
    let (t, n) ← addPart? opened.length (← buildBehind? opened t) n
    (← t.addState? 0).addBranches? (n + closed.length)

/-- Builds the states of branches that were closed, and counts them on. -/
def buildClosed? : List (List (Nat × Tree)) → Tally → Nat → Option (Tally × Nat)
  | [], t, n => some (t, n)
  | part :: parts, t, n => do
    let (t, n) ← addPart? part.length (← buildBehind? part t) n
    buildClosed? parts t n

def buildBehind? : List (Nat × Tree) → Tally → Option Tally
  | [], t => some t
  | (_, tree) :: rest, t => do
    buildBehind? rest (← if tree.isLeaf then some t else tree.build? t)

end

end Tree

/-- The bytes of a literal in the order in which they are read. -/
def literalBytes (d : Direction) (cs : List Char) : List Nat :=
  let bytes := cs.flatMap fun c => Text.Utf8.bytes c.toNat
  match d with
  | .forward => bytes
  | .backward => bytes.reverse

/-- Builds alternatives that are all literals. -/
def literals? (d : Direction) (literals : List (List Char)) (t : Tally) : Option Tally := do
  let tree := literals.foldl (fun tree cs => Tree.add (literalBytes d cs) tree) Tree.empty
  tree.build? (← t.addState? 0)

/-! ### Repetitions -/

/-- What a part adds, and whether its last state forks. -/
abbrev Builder := Tally → Option (Tally × Bool)

/-- Builds so many copies in a row behind a part. -/
def copiesBehind? (build : Builder) : Nat → Tally × Bool → Option (Tally × Bool)
  | 0, acc => some acc
  | n + 1, (t, forks) =>
    match build t with
    | none => none
    | some (t, forks') =>
      match t.leadOn? forks with
      | none => none
      | some t => copiesBehind? build n (t, forks')

def copies? (build : Builder) (n : Nat) : Builder := fun t =>
  match n with
  | 0 => (t.addState? 0).map (·, false)
  | n + 1 => (build t).bind (copiesBehind? build n)

/-- Builds so many copies behind a part, before each of which the match may end. -/
def optionalBehind? (build : Builder) : Nat → Tally × Bool → Option (Tally × Bool)
  | 0, acc => some acc
  | n + 1, (t, forks) =>
    match (t.addState? 0).bind build with
    | none => none
    | some (t, forks') =>
      match (t.leadOn? forks).bind (·.addBranches? 2) with
      | none => none
      | some t => optionalBehind? build n (t, forks')

/-- Builds one copy or more, with a state behind it that leads back. -/
def oneOrMore? (build : Builder) (t : Tally) : Option Tally := do
  let (t, forks) ← build t
  (← (← t.addState? 0).leadOn? forks).addBranches? 1

/-- Builds a repetition. The flag says whether each repetition takes at least one byte. -/
def repeated? (build : Builder) (advances : Bool) (least : Nat) (most : Option Nat) : Builder :=
  fun t => do
    match least, most with
    | 0, some 1 =>
      let (t, forks) ← build (← t.addState? 0)
      return (← (← (← t.addState? 0).addBranches? 2).leadOn? forks, false)
    | 0, none =>
      if advances then
        let (t, forks) ← build (← t.addState? 0)
        return (← (← t.addBranches? 1).leadOn? forks, true)
      else
        return (← (← (← oneOrMore? build t).addBytes? 2).addBranches? 3, false)
    | 1, none => return (← oneOrMore? build t, true)
    | least + 1, none =>
      let (t, forks) ← copies? build least t
      return (← (← oneOrMore? build t).leadOn? forks, true)
    | least, some most =>
      let (t, forks) ← copies? build least t
      if most = least then return (t, forks)
      else
        let (t, forks) ← optionalBehind? build (most - least) (← t.addState? 0, forks)
        return (← t.leadOn? forks, false)

/-! ### Forms -/

def literal? : Form → Option (List Char)
  | .literal cs => some cs
  | _ => none

mutual

def build? (d : Direction) : Form → Builder
  | .empty, t => (t.addState? 0).map (·, false)
  | .literal cs, t => (t.addBytes? (Form.byteCount cs)).map (·, false)
  | .set s, t => (set? d s t).map (·, false)
  | .anchor _, t => (t.addState? 0).map (·, false)
  | .repeated f least most _, t => repeated? (build? d f) (f.least?.any (0 < ·)) least most t
  | .group _ f, t => do
    match d with
    | .forward =>
      let (t, forks) ← build? d f (← t.addState? 0)
      return (← (← t.addState? 0).leadOn? forks, false)
    | .backward => build? d f t
  | .row fs, t => buildRow? d fs t
  | .choice fs, t =>
    match fs.mapM literal? with
    | some literals => (literals? d literals t).map (·, false)
    | none => (buildBranches? d 0 fs t).map (·, false)

/-- Builds forms in a row, those first that are read first. -/
def buildRow? (d : Direction) : List Form → Builder
  | [], t => (t.addState? 0).map (·, false)
  | [f], t => build? d f t
  | f :: fs, t => do
    match d with
    | .forward =>
      let (t, forks) ← build? d f t
      let (t, forks') ← buildRow? d fs t
      return (← t.leadOn? forks, forks')
    | .backward =>
      let (t, forks) ← buildRow? d fs t
      let (t, forks') ← build? d f t
      return (← t.leadOn? forks, forks')

/-- Builds alternatives after so many others. The states that fork to all of them and join them
again come after the second one. -/
def buildBranches? (d : Direction) (before : Nat) : List Form → Tally → Option Tally
  | [], t => some t
  | f :: fs, t => do
    let (t, forks) ← build? d f t
    let t ← if before = 1 then t.addBytes? 2 else some t
    buildBranches? d (before + 1) fs (← (← t.addBranches? 1).leadOn? forks)

end

/-- Builds what is passed over before a match: nothing if a match has to begin where the reading
begins, and any bytes otherwise. -/
def lead? (d : Direction) (f : Form) (t : Tally) : Option Tally :=
  let anchored :=
    match d with
    | .forward => f.beginsWith .textStart
    | .backward => f.endsWith .textEnd
  if anchored then t.addState? 0
  else do (← (← t.addBytes? 2).addState? 1).addBranches? 2

/-- Builds the automaton of a form. Forward it notes where a match begins and ends. -/
def ofForm? (d : Direction) (f : Form) : Option Tally := do
  let t ← lead? d f ⟨0, 0⟩
  match d with
  | .forward =>
    let (t, forks) ← build? d f (← t.addState? 0)
    (← t.addBytes? 2).leadOn? forks
  | .backward =>
    let (t, forks) ← build? d f t
    (← t.addState? 0).leadOn? forks

end Automaton

/-- Whether the automata of a form stay within the limit. -/
def Form.fits (f : Form) : Bool :=
  (Automaton.ofForm? .forward f).isSome && (Automaton.ofForm? .backward f).isSome

end Provisioning.Pattern
