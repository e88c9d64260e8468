import Provisioning.Number.Binary64

/-!
The fewest decimal digits that read back as a given floating-point number.

For 1, 2, … digits the two neighbours of the magnitude on that decimal grid are tried; the first
grid with a neighbour that rounds to the magnitude gives the digits. Where both neighbours do, the
nearer one is taken, and a `Tie` decides between two equally near ones.
-/

namespace Provisioning

/-- Which of two equally near decimals is written. -/
inductive Tie where
  /-- The one with the even last digit. -/
  | even
  /-- The larger one. -/
  | up
  deriving DecidableEq, Repr

/-- Decimal digits, most significant first, and the power of ten of the first of them. -/
structure Decimal where
  digits : List Char
  exponent : Int
  deriving DecidableEq, Repr

namespace Binary64

/-- How many digits a magnitude is moved by so that it is at least one. -/
def headroom : Nat := 324

/-- The power of ten just above a magnitude: `10 ^ (p - 1) ≤ magnitude < 10 ^ p`. -/
def decimalPoint (rank : Nat) : Int :=
  (Nat.toDigits 10 (units rank * Nat.pow 10 headroom / (1 <<< 1074))).length - headroom

/-- Whether `coefficient * 10 ^ exponent` rounds to the magnitude. -/
def readsBack (rank coefficient : Nat) (exponent : Int) : Bool :=
  let (num, den) := decimalRatio coefficient exponent
  nearestRank num den == rank

/-- The magnitude in steps of `10 ^ exponent`, as a quotient. -/
def gridRatio (rank : Nat) (exponent : Int) : Nat × Nat :=
  if 0 ≤ exponent then (units rank, Nat.pow 10 exponent.toNat <<< 1074)
  else (units rank * Nat.pow 10 (-exponent).toNat, 1 <<< 1074)

/-- The nearer of a grid point and the next one; a tie is decided by the rule. -/
def nearer (tie : Tie) (num den : Nat) : Nat :=
  let low := num / den
  let r := num % den
  if 2 * r < den then low
  else if den < 2 * r then low + 1
  else match tie with
    | .up => low + 1
    | .even => if low % 2 = 0 then low else low + 1

/-- Of two neighbours the one that reads back; the nearer one, which is given, where both do. -/
def pick (near low high : Nat) : Bool → Bool → Option Nat
  | true, true => some near
  | true, false => some low
  | false, true => some high
  | false, false => none

/-- The grid point of step `10 ^ exponent` that stands for the magnitude, if one reads back. -/
def onGrid? (tie : Tie) (rank : Nat) (exponent : Int) : Option Nat :=
  let (num, den) := gridRatio rank exponent
  let low := num / den
  pick (nearer tie num den) low (low + 1) (readsBack rank low exponent)
    (readsBack rank (low + 1) exponent)

/-- Digits without the zeros at their end; zero keeps one digit. -/
def stripZeros (ds : List Char) : List Char :=
  match (ds.reverse.dropWhile (· == '0')).reverse with
  | [] => ['0']
  | ds => ds

/-- A grid point as digits and a power of ten, without zeros at its end. -/
def ofGridPoint (point : Nat × Int) : Decimal :=
  let ds := Nat.toDigits 10 point.1
  ⟨stripZeros ds, point.2 + ds.length - 1⟩

/-- The first grid point that reads back, on grids of 1, 2, … digits. -/
def firstOnGrid? (tie : Tie) (rank : Nat) : Option (Nat × Int) :=
  let p := decimalPoint rank
  (List.range 17).findSome? fun (n : Nat) =>
    let exponent := p - (n + 1)
    (onGrid? tie rank exponent).map fun c => (c, exponent)

/-- The fewest digits that read back as the magnitude. -/
def shortest (tie : Tie) (rank : Nat) : Decimal :=
  if rank = 0 then ⟨['0'], 0⟩ else ofGridPoint ((firstOnGrid? tie rank).getD (0, 0))

end Binary64

end Provisioning
