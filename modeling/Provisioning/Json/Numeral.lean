import Provisioning.Json
import Provisioning.Number.Scaled

/-!
Numbers as JSON texts write them.

A `Numeral` keeps what is written; `Numeral.value?` is its value. Without a fraction and an exponent
that is a whole number, as long as it fits into 64 bits. All other values are floating-point numbers
that are close to what is written, and need not be the closest.
-/

namespace Provisioning.Json

/-- A number as it is written. -/
structure Numeral where
  negative : Bool
  /-- The digits before the point. -/
  whole : List Char
  /-- The digits behind the point; there are some if there is a point. -/
  fraction : List Char
  exponent : Option Int
  deriving DecidableEq

namespace Numeral

/-- Reads a number without its sign. Its whole part has no leading zero. -/
def unsigned? (negative : Bool) (cs : List Char) : Option Numeral :=
  let whole := cs.takeWhile isDigit
  let rest := cs.dropWhile isDigit
  if whole = [] ∨ (1 < whole.length ∧ whole.head? = some '0') then none
  else
    let fraction? : Option (List Char × List Char) := match rest with
      | '.' :: more =>
        let ds := more.takeWhile isDigit
        if ds = [] then none else some (ds, more.dropWhile isDigit)
      | _ => some ([], rest)
    fraction?.bind fun (fraction, rest) =>
      match rest with
      | [] => some ⟨negative, whole, fraction, none⟩
      | c :: more =>
        if c = 'e' ∨ c = 'E' then
          (readExponent? more).map fun e => ⟨negative, whole, fraction, some e⟩
        else none

def ofChars? : List Char → Option Numeral
  | '-' :: cs => unsigned? true cs
  | cs => unsigned? false cs

/-- The floating-point number for a numeral, if it is finite. -/
def real? (n : Numeral) : Option Number :=
  (Binary64.ofDigits? n.negative n.whole n.fraction (n.exponent.getD 0)).map .real

/-- The value of a numeral, if it is finite. Minus zero is the floating-point number of that
sign. -/
def value? (n : Numeral) : Option Number :=
  if n.fraction ≠ [] ∨ n.exponent.isSome then n.real?
  else
    let m := digitsValue n.whole
    let i : Int := if n.negative then -m else m
    if n.negative ∧ m = 0 then n.real?
    else if h : WholeRange i then some (.whole i h)
    else n.real?

end Numeral

end Provisioning.Json
