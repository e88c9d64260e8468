import Provisioning.Number.Text
import Provisioning.Text.Blank

/-!
Dates of the Gregorian calendar, extended to all years from -262143 to 262142.

A date is read leniently: blanks may stand before each number, before each hyphen and at the end,
months and days may have one digit, and a year with a sign may have any number of digits. It is
written with four digits of the year, or more digits and a sign outside the years 0 to 9999.
-/

namespace Provisioning

/-- Whether a year has a 29th of February. -/
def isLeapYear (year : Int) : Bool :=
  year % 4 == 0 && (year % 100 != 0 || year % 400 == 0)

/-- The number of days of a month; none of a number that is no month. -/
def daysInMonth (year : Int) (month : Nat) : Nat :=
  match month with
  | 1 | 3 | 5 | 7 | 8 | 10 | 12 => 31
  | 4 | 6 | 9 | 11 => 30
  | 2 => if isLeapYear year then 29 else 28
  | _ => 0

/-- What makes three numbers a date. -/
def IsDate (year : Int) (month day : Nat) : Prop :=
  -262143 ≤ year ∧ year ≤ 262142 ∧ 1 ≤ day ∧ day ≤ daysInMonth year month

instance (year : Int) (month day : Nat) : Decidable (IsDate year month day) :=
  inferInstanceAs (Decidable (_ ∧ _))

structure Date where
  year : Int
  month : Nat
  day : Nat
  isDate : IsDate year month day
  deriving DecidableEq

/-! ### Reading numbers out of a text -/

namespace Calendar

/-- The first digits, at most `limit` of them, and what follows. -/
def splitDigits : (limit : Nat) → List Char → List Char × List Char
  | 0, cs => ([], cs)
  | _, [] => ([], [])
  | limit + 1, c :: rest =>
    if isDigit c then ((c :: (splitDigits limit rest).1), (splitDigits limit rest).2)
    else ([], c :: rest)

/-- Reads a number of one to `limit` digits. -/
def number? (limit : Nat) (cs : List Char) : Option (Nat × List Char) :=
  match splitDigits limit cs with
  | ([], _) => none
  | (ds, rest) => some (digitsValue ds, rest)

def char? (c : Char) : List Char → Option (List Char)
  | d :: rest => if d = c then some rest else none
  | [] => none

/-- The decimal digits of a number, padded with zeros to a width. -/
def padded (width n : Nat) : List Char :=
  let ds := Nat.toDigits 10 n
  List.replicate (width - ds.length) '0' ++ ds

end Calendar

namespace Date

open Calendar Text

/-- The date of three numbers, if they make one. -/
def ofNumbers? (year : Int) (month day : Nat) : Option Date :=
  if h : IsDate year month day then some ⟨year, month, day, h⟩ else none

/-- Reads a year: up to four digits, or a sign and any number of digits. -/
def year? (cs : List Char) : Option (Int × List Char) :=
  match skipBlanks cs with
  | '-' :: rest => (number? rest.length rest).map fun (n, rest) => (-(n : Int), rest)
  | '+' :: rest => (number? rest.length rest).map fun (n, rest) => ((n : Int), rest)
  | rest => (number? 4 rest).map fun (n, rest) => ((n : Int), rest)

def ofChars? (cs : List Char) : Option Date := do
  let (year, rest) ← year? cs
  let rest ← char? '-' (skipBlanks rest)
  let (month, rest) ← number? 2 (skipBlanks rest)
  let rest ← char? '-' (skipBlanks rest)
  let (day, rest) ← number? 2 (skipBlanks rest)
  if skipBlanks rest = [] then ofNumbers? year month day else none

def ofText? (s : String) : Option Date := ofChars? s.toList

def yearChars (year : Int) : List Char :=
  if 0 ≤ year ∧ year ≤ 9999 then padded 4 year.natAbs
  else (if year < 0 then '-' else '+') :: padded 4 year.natAbs

def toChars (d : Date) : List Char :=
  yearChars d.year ++ ['-'] ++ padded 2 d.month ++ ['-'] ++ padded 2 d.day

def toText (d : Date) : String := String.ofList d.toChars

/-- The number of days from the first of March of the year 0 to a date. -/
def dayNumber (d : Date) : Int :=
  let y := if d.month ≤ 2 then d.year - 1 else d.year
  let m : Int := (d.month + 9) % 12
  365 * y + y / 4 - y / 100 + y / 400 + (153 * m + 2) / 5 + d.day - 1

example : (ofText? " 2024 - 2 -29 ").map toText = some "2024-02-29" := by decide +kernel

example : (ofText? "+10000-1-1").map toText = some "+10000-01-01" := by decide +kernel

example : ofText? "2023-02-29" = none := by decide +kernel

end Date

end Provisioning
