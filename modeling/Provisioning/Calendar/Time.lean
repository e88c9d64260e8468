import Provisioning.Calendar.Date

/-!
Times of day.

A time has a precision of nanoseconds, and any minute may end with a leap second, written as second
60. Reading allows blanks before each number, before each colon and at the end, and the seconds may
be missing. A fraction is written with the fewest of 0, 3, 6 or 9 digits that are exact.
-/

namespace Provisioning

/-- What makes four numbers a time of day. -/
def IsTime (hour minute second nanosecond : Nat) : Prop :=
  hour < 24 ∧ minute < 60 ∧ second ≤ 60 ∧ nanosecond < 1000000000

instance (hour minute second nanosecond : Nat) : Decidable (IsTime hour minute second nanosecond) :=
  inferInstanceAs (Decidable (_ ∧ _))

/-- A time of day. Second 60 is a leap second. -/
structure Time where
  hour : Nat
  minute : Nat
  second : Nat
  nanosecond : Nat
  isTime : IsTime hour minute second nanosecond
  deriving DecidableEq

namespace Time

open Calendar Text

/-- The time of four numbers, if they make one. -/
def ofNumbers? (hour minute second nanosecond : Nat) : Option Time :=
  if h : IsTime hour minute second nanosecond then some ⟨hour, minute, second, nanosecond, h⟩
  else none

/-- The nanoseconds that the digits of a fraction denote; digits after the ninth do not count. -/
def fractionValue (ds : List Char) : Nat :=
  let kept := ds.take 9
  digitsValue kept * Nat.pow 10 (9 - kept.length)

/-- Reads a fraction, if there is a point. -/
def fraction? (cs : List Char) : Option (Nat × List Char) :=
  match cs with
  | '.' :: rest =>
    match splitDigits rest.length rest with
    | ([], _) => none
    | (ds, rest) => some (fractionValue ds, rest)
  | _ => some (0, cs)

/-- Reads a colon, the seconds and their fraction. -/
def seconds? (cs : List Char) : Option (Nat × Nat × List Char) := do
  let rest ← char? ':' (skipBlanks cs)
  let (second, rest) ← number? 2 (skipBlanks rest)
  let (nanosecond, rest) ← fraction? rest
  return (second, nanosecond, rest)

def ofChars? (cs : List Char) : Option Time := do
  let (hour, rest) ← number? 2 (skipBlanks cs)
  let rest ← char? ':' (skipBlanks rest)
  let (minute, rest) ← number? 2 (skipBlanks rest)
  let (second, nanosecond, rest) := (seconds? rest).getD (0, 0, rest)
  if skipBlanks rest = [] then ofNumbers? hour minute second nanosecond else none

def ofText? (s : String) : Option Time := ofChars? s.toList

/-- The characters of a fraction of a second. -/
def fractionChars (nanosecond : Nat) : List Char :=
  if nanosecond = 0 then []
  else if nanosecond % 1000000 = 0 then '.' :: padded 3 (nanosecond / 1000000)
  else if nanosecond % 1000 = 0 then '.' :: padded 6 (nanosecond / 1000)
  else '.' :: padded 9 nanosecond

def toChars (t : Time) : List Char :=
  padded 2 t.hour ++ [':'] ++ padded 2 t.minute ++ [':'] ++ padded 2 t.second ++
    fractionChars t.nanosecond

def toText (t : Time) : String := String.ofList t.toChars

/-- The whole seconds since midnight; a leap second counts with the second before it. -/
def secondOfDay (t : Time) : Nat := t.hour * 3600 + t.minute * 60 + min t.second 59

/-- The nanoseconds since the last whole second; those of a leap second follow those of the second
before it. -/
def nanosecondOfSecond (t : Time) : Nat :=
  if t.second = 60 then t.nanosecond + 1000000000 else t.nanosecond

example : (ofText? "7:05").map toText = some "07:05:00" := by decide +kernel

example : (ofText? "23:59:60.5000000009").map toText = some "23:59:60.500" := by decide +kernel

end Time

end Provisioning
