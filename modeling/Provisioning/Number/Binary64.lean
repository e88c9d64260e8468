/-!
Finite binary floating-point numbers of 64 bits, in exact arithmetic.

The finite magnitudes are counted from zero upwards; a number is its sign and the place of its
magnitude in that count, so every place below `2047 * 2 ^ 52` is one number and no two places are
the same number. Each magnitude is a whole multiple of `2 ^ -1074`, which makes rounding a division
of natural numbers.
-/

namespace Provisioning

/-- A finite floating-point number: its sign, and the place of its magnitude among all finite
magnitudes in ascending order. -/
structure Binary64 where
  negative : Bool
  rank : Nat
  rank_lt : rank < 2047 * 0x10000000000000
  deriving DecidableEq

namespace Binary64

def zero : Binary64 := ⟨false, 0, by decide⟩

instance : Inhabited Binary64 := ⟨zero⟩

/-- The binary scale of a place: the magnitudes of one scale are equally spaced. -/
def scale (rank : Nat) : Nat := rank / 0x10000000000000 - 1

/-- The magnitude at a place, as a multiple of `2 ^ -1074`. -/
def units (rank : Nat) : Nat := (rank - scale rank * 0x10000000000000) <<< scale rank

/-- A quotient rounded to the nearest whole number, a half to the even neighbour. -/
def nearestEven (num den : Nat) : Nat :=
  let q := num / den
  let r := num % den
  if den < 2 * r ∨ (2 * r = den ∧ q % 2 = 1) then q + 1 else q

/-- The place of the magnitude nearest to a quotient, a half going to the even place. A place
beyond the last one says that the quotient is too large. -/
def nearestRank (num den : Nat) : Nat :=
  let n := num <<< 1074
  let s := (n / den).log2 - 52
  s * 0x10000000000000 + nearestEven n (den <<< s)

/-- The number nearest to a quotient; none if that is not finite. -/
def ofRatio? (negative : Bool) (num den : Nat) : Option Binary64 :=
  let rank := nearestRank num den
  if h : rank < 2047 * 0x10000000000000 then some ⟨negative, rank, h⟩ else none

/-- The quotient `coefficient * 10 ^ exponent` as a numerator and a denominator. -/
def decimalRatio (coefficient : Nat) (exponent : Int) : Nat × Nat :=
  if 0 ≤ exponent then (coefficient * Nat.pow 10 exponent.toNat, 1)
  else (coefficient, Nat.pow 10 (-exponent).toNat)

/-- The number nearest to `coefficient * 10 ^ exponent`; none if that is not finite. Exponents far
outside the range of the format are decided by the number of digits alone. -/
def ofDecimal? (negative : Bool) (coefficient : Nat) (exponent : Int) : Option Binary64 :=
  let digits : Int := (Nat.toDigits 10 coefficient).length
  if coefficient = 0 ∨ digits + exponent < -330 then some ⟨negative, 0, by decide⟩
  else if 310 < digits + exponent then none
  else
    let (num, den) := decimalRatio coefficient exponent
    ofRatio? negative num den

def ofInt (n : Int) : Option Binary64 := ofRatio? (n < 0) n.natAbs 1

/-- Numerical equality: the two zeros are one number. -/
def same (a b : Binary64) : Bool := a == b || (a.rank == 0 && b.rank == 0)

end Binary64

end Provisioning
