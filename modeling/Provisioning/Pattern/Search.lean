import Provisioning.Pattern.Basic

/-!
Searching a text for a pattern.

The places of a text are numbered from 0 to its length, and a set of places is a number whose bits
are the places. On one text a pattern comes down to `Moves`, which map the places where a match may
begin to those where it may end. They work on all places at once, so the work grows with the length
of the text and never explodes.
-/

namespace Provisioning.Pattern

/-- What a pattern does to the places reached in one text. -/
inductive Moves where
  /-- Moves none of them. -/
  | stay
  /-- Moves those in a set on by one. -/
  | step (set : Nat)
  /-- Keeps those in a set. -/
  | keep (set : Nat)
  | andThen (f g : Moves)
  | either (f g : Moves)
  /-- At least so many times, and up to so many more. -/
  | repeated (f : Moves) (least more : Nat)
  deriving DecidableEq, Repr

def times (f : Nat → Nat) : Nat → Nat → Nat
  | 0, s => s
  | n + 1, s => times f n (f s)

/-- Adds what a map reaches in up to so many steps; where a step adds nothing, no later one does. -/
def reach (f : Nat → Nat) : Nat → Nat → Nat
  | 0, s => s
  | n + 1, s => let t := s ||| f s; if t = s then s else reach f n t

def Moves.run : Moves → Nat → Nat
  | stay, s => s
  | step set, s => 2 * (s &&& set)
  | keep set, s => s &&& set
  | andThen f g, s => g.run (f.run s)
  | either f g, s => f.run s ||| g.run s
  | repeated f least more, s => reach f.run more (times f.run least s)

def bitsWhere {α : Type} (p : α → Bool) (as : List α) : Nat :=
  as.foldr (fun a bits => 2 * bits + if p a then 1 else 0) 0

def places (text : List Char) : List (Option Char × Option Char) :=
  (none :: text.map some).zip (text.map some ++ [none])

/-- What a pattern does in a text. More repetitions than there are places change nothing, because
all but so many of them match the empty text. -/
def movesIn (text : List Char) : Pattern → Moves
  | .empty => .stay
  | .char set => .step (bitsWhere (fun c => set.contains c.toNat) text)
  | .anchor a => .keep (bitsWhere (fun (b, c) => a.holds b c) (places text))
  | .seq p q => .andThen (movesIn text p) (movesIn text q)
  | .alt p q => .either (movesIn text p) (movesIn text q)
  | .rep p least more =>
    let bound := text.length + 1
    .repeated (movesIn text p) (min least bound) (min (more.getD bound) bound)

/-- Whether some stretch of a text is matched. -/
def found (p : Pattern) (text : List Char) : Bool :=
  (movesIn text p).run ((1 <<< (text.length + 1)) - 1) != 0

end Provisioning.Pattern
