import Provisioning.Text.CodePoints

/-!
Universally unique identifiers.

An identifier is a number of 128 bits; identifiers are ordered by that number, which is the order
of their bytes. `toText` writes the one canonical form, five groups of lower-case hexadecimal
digits; `ofText?` also reads the digits without hyphens, the canonical form between braces and the
canonical form after `urn:uuid:`, with letters in either case.
-/

namespace Provisioning

/-- An identifier: a number of 128 bits. -/
structure Uuid where
  number : Nat
  number_lt : number < 0x100000000000000000000000000000000
  deriving DecidableEq

namespace Uuid

def zero : Uuid := ⟨0, by decide⟩

instance : Inhabited Uuid := ⟨zero⟩

instance : Ord Uuid := ⟨fun a b => compare a.number b.number⟩

instance : Std.TransOrd Uuid where
  eq_swap {a b} := Std.OrientedOrd.eq_swap (a := a.number) (b := b.number)
  isLE_trans {a b c} := Std.TransOrd.isLE_trans (a := a.number) (b := b.number) (c := c.number)

instance : Std.LawfulEqOrd Uuid where
  compare_self {a} := Std.ReflOrd.compare_self (a := a.number)
  eq_of_compare {a b} h := by
    cases a; cases b
    simp only [Uuid.mk.injEq]
    exact Std.LawfulEqOrd.eq_of_compare (α := Nat) h

/-- The identifier with the low 128 bits of a number. -/
def ofNat (n : Nat) : Uuid := ⟨n % 0x100000000000000000000000000000000, Nat.mod_lt _ (by decide)⟩

instance (n : Nat) : OfNat Uuid n := ⟨ofNat n⟩

/-- The hexadecimal digit of a number below 16, in lower case. -/
def hexDigit (n : Nat) : Char := Nat.digitChar (n % 16)

/-- The low `count` hexadecimal digits of a number, most significant first. -/
def hexDigitsOf (n : Nat) : (count : Nat) → List Char
  | 0 => []
  | count + 1 => hexDigitsOf (n / 16) count ++ [hexDigit n]

def toChars (u : Uuid) : List Char :=
  let ds := hexDigitsOf u.number 32
  ds.take 8 ++ ['-'] ++ (ds.drop 8).take 4 ++ ['-'] ++ (ds.drop 12).take 4 ++ ['-'] ++
    (ds.drop 16).take 4 ++ ['-'] ++ ds.drop 20

def toText (u : Uuid) : String := String.ofList u.toChars

/-- Reads hexadecimal digits after the number read so far. -/
def readDigits? (soFar : Nat) : List Char → Option Nat
  | [] => some soFar
  | c :: rest => (Text.hexDigit? c).bind fun d => readDigits? (soFar * 16 + d) rest

/-- Reads 32 hexadecimal digits. -/
def ofDigits? (cs : List Char) : Option Uuid :=
  if cs.length = 32 then (readDigits? 0 cs).map ofNat else none

/-- Reads five groups of 8, 4, 4, 4 and 12 hexadecimal digits with hyphens between them. -/
def ofGroups? (cs : List Char) : Option Uuid :=
  if cs.length = 36 ∧ cs[8]? = some '-' ∧ cs[13]? = some '-' ∧ cs[18]? = some '-' ∧
      cs[23]? = some '-' then
    ofDigits? (cs.take 8 ++ (cs.drop 9).take 4 ++ (cs.drop 14).take 4 ++ (cs.drop 19).take 4 ++
      cs.drop 24)
  else none

def ofChars? (cs : List Char) : Option Uuid :=
  match cs with
  | '\x7b' :: rest =>
    if rest.getLast? = some '\x7d' then ofGroups? rest.dropLast else none
  | _ =>
    if cs.length = 32 then ofDigits? cs
    else if (cs.take 9).map Char.toLower = ['u', 'r', 'n', ':', 'u', 'u', 'i', 'd', ':'] then
      ofGroups? (cs.drop 9)
    else ofGroups? cs

def ofText? (s : String) : Option Uuid := ofChars? s.toList

example : (ofText? "URN:uuid:6D8E3B1C-52A4-4F0E-9C71-1A2B3C4D5E6F").map toText =
    some "6d8e3b1c-52a4-4f0e-9c71-1a2b3c4d5e6f" := by decide +kernel

end Uuid

end Provisioning
