import Provisioning.Calendar.Time

/-!
Timestamps: a date and a time of day at an offset from universal time.

The text has fixed widths: four digits of the year and two of everything else, then a fraction of
any length, then `Z` or an offset of less than a day. Timestamps are the same when they name one
instant, whatever their offsets.
-/

namespace Provisioning

/-- A date and a time of day on clocks that are `offset` minutes ahead of universal time. -/
structure Timestamp where
  date : Date
  time : Time
  offset : Int
  offset_lt : offset.natAbs < 24 * 60
  deriving DecidableEq

namespace Timestamp

open Calendar

def twoDigits? (cs : List Char) : Option (Nat × List Char) :=
  match splitDigits 2 cs with
  | ([a, b], rest) => some (digitsValue [a, b], rest)
  | _ => none

def fourDigits? (cs : List Char) : Option (Nat × List Char) :=
  match splitDigits 4 cs with
  | ([a, b, c, d], rest) => some (digitsValue [a, b, c, d], rest)
  | _ => none

/-- Reads hours and minutes of an offset. -/
def offsetSize? (cs : List Char) : Option Nat := do
  let (hours, rest) ← twoDigits? cs
  let rest ← char? ':' rest
  let (minutes, rest) ← twoDigits? rest
  if rest = [] ∧ minutes < 60 then return hours * 60 + minutes else none

/-- Reads an offset up to the end of the text: `Z`, or a sign, hours and minutes. -/
def offset? (cs : List Char) : Option Int :=
  match cs with
  | ['Z'] | ['z'] => some 0
  | '+' :: rest => (offsetSize? rest).map fun n => (n : Int)
  | '-' :: rest | '−' :: rest => (offsetSize? rest).map fun n => -(n : Int)
  | _ => none

def separator? : List Char → Option (List Char)
  | 'T' :: rest | 't' :: rest | ' ' :: rest => some rest
  | _ => none

/-- The timestamp of its parts, if the offset is less than a day. -/
def ofParts? (date : Date) (time : Time) (offset : Int) : Option Timestamp :=
  if h : offset.natAbs < 24 * 60 then some ⟨date, time, offset, h⟩ else none

def ofChars? (cs : List Char) : Option Timestamp := do
  let (year, rest) ← fourDigits? cs
  let rest ← char? '-' rest
  let (month, rest) ← twoDigits? rest
  let rest ← char? '-' rest
  let (day, rest) ← twoDigits? rest
  let rest ← separator? rest
  let (hour, rest) ← twoDigits? rest
  let rest ← char? ':' rest
  let (minute, rest) ← twoDigits? rest
  let rest ← char? ':' rest
  let (second, rest) ← twoDigits? rest
  let (nanosecond, rest) ← Time.fraction? rest
  let offset ← offset? rest
  let date ← Date.ofNumbers? year month day
  let time ← Time.ofNumbers? hour minute second nanosecond
  ofParts? date time offset

def ofText? (s : String) : Option Timestamp := ofChars? s.toList

def offsetChars (offset : Int) : List Char :=
  (if offset < 0 then '-' else '+') :: padded 2 (offset.natAbs / 60) ++ [':'] ++
    padded 2 (offset.natAbs % 60)

def toChars (t : Timestamp) : List Char :=
  t.date.toChars ++ ['T'] ++ t.time.toChars ++ offsetChars t.offset

def toText (t : Timestamp) : String := String.ofList t.toChars

/-- The seconds of universal time up to the last whole second of an instant. -/
def instantSecond (t : Timestamp) : Int :=
  t.date.dayNumber * 86400 + t.time.secondOfDay - t.offset * 60

/-- Whether two timestamps name one instant. -/
def same (a b : Timestamp) : Bool :=
  a.instantSecond == b.instantSecond && a.time.nanosecondOfSecond == b.time.nanosecondOfSecond

example : (ofText? "2024-02-29 12:00:00.10z").map toText =
    some "2024-02-29T12:00:00.100+00:00" := by
  decide +kernel

example : ((ofText? "2024-03-01T00:30:00+01:00").bind fun a =>
    (ofText? "2024-02-29T23:30:00Z").map a.same) = some true := by decide +kernel

end Timestamp

end Provisioning
