import Provisioning.Number.Text

/-!
Decimals read in a few rounded steps.

As many digits as fit into 64 bits are gathered into a coefficient, and the others only move the
point. The coefficient is rounded to a floating-point number, multiplied or divided by a power of
ten, which is rounded too, and rounded again. What comes of it is close to the decimal, but another
floating-point number may be closer. `Binary64.ofDecimal?` finds the closest one instead.
-/

namespace Provisioning.Binary64

/-! ### Rounded steps -/

def wholeRank (n : Nat) : Nat := nearestRank n 1

def powerRank (exponent : Nat) : Nat := wholeRank (Nat.pow 10 exponent)

def productRank (a b : Nat) : Nat := nearestRank (units a * units b) (1 <<< 2148)

def quotientRank (a b : Nat) : Nat := nearestRank (units a) (units b)

/-- The greatest power of ten that is finite has this exponent. -/
def maxPower : Nat := 308

/-- Multiplies by a power of ten. No whole number but zero is finite times a power that is not. -/
def raised (rank exponent : Nat) : Nat :=
  if exponent ≤ maxPower then productRank rank (powerRank exponent)
  else if rank = 0 then 0
  else 2047 * 0x10000000000000

/-- Divides by a power of ten, step by step where it is not finite. -/
def lowered (rank exponent : Nat) : Nat :=
  if exponent ≤ maxPower then quotientRank rank (powerRank exponent)
  else if rank = 0 then 0
  else lowered (quotientRank rank (powerRank maxPower)) (exponent - maxPower)
termination_by exponent
decreasing_by
  unfold maxPower at *
  omega

/-- A number close to `coefficient * 10 ^ exponent`; none if it is not finite. -/
def scaled? (negative : Bool) (coefficient : Nat) (exponent : Int) : Option Binary64 :=
  let rank :=
    if 0 ≤ exponent then raised (wholeRank coefficient) exponent.toNat
    else lowered (wholeRank coefficient) (-exponent).toNat
  if h : rank < 2047 * 0x10000000000000 then some ⟨negative, rank, h⟩ else none

/-! ### Digits -/

/-- Appends digits to a coefficient as long as it fits into 64 bits. Returns it and the digits that
are left over. -/
def gather (coefficient : Nat) : List Char → Nat × List Char
  | [] => (coefficient, [])
  | c :: cs =>
    let next := coefficient * 10 + (digit? c).getD 0
    if next < 0x10000000000000000 then gather next cs else (coefficient, c :: cs)

/-- A number close to what digits before and behind the point denote, times `10 ^ exponent`. Of the
digits that do not fit, those before the point still count as places. -/
def ofDigits? (negative : Bool) (whole fraction : List Char) (exponent : Int) :
    Option Binary64 :=
  let (coefficient, left) := gather 0 whole
  let (coefficient, cut) := gather coefficient fraction
  scaled? negative coefficient (exponent + left.length - (fraction.length - cut.length))

/-- A half that is rounded twice: the coefficient to the even neighbour, and then the quotient. -/
example : ofDigits? false ['9'] "222222222222221".toList 0 =
    ofDecimal? false 922222222222222 (-14) := by decide +kernel

end Provisioning.Binary64
