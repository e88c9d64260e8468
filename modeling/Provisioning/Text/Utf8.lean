import Provisioning.CharSet

/-!
UTF-8 forms of sets of characters.

The characters of an interval are written as sequences of byte ranges: a character belongs to the
interval exactly if its bytes lie in the ranges of one of the sequences. `Utf8.sequences` gives them
in ascending order, as few as are needed.
-/

namespace Provisioning.Text.Utf8

def bytes (n : Nat) : List Nat :=
  if n < 0x80 then [n]
  else if n < 0x800 then [0xC0 + n / 0x40, 0x80 + n % 0x40]
  else if n < 0x10000 then [0xE0 + n / 0x1000, 0x80 + n / 0x40 % 0x40, 0x80 + n % 0x40]
  else [0xF0 + n / 0x40000, 0x80 + n / 0x1000 % 0x40, 0x80 + n / 0x40 % 0x40, 0x80 + n % 0x40]

/-- The code points whose forms have one length, those above the surrogates apart from those
below. -/
def zones : List Interval :=
  [⟨0, 0x7F⟩, ⟨0x80, 0x7FF⟩, ⟨0x800, 0xD7FF⟩, ⟨0xE000, 0xFFFF⟩, ⟨0x10000, 0x10FFFF⟩]

/-- Cuts off the end of an interval that begins with a block, unless it ends with one too or lies
within one. -/
def cutTail (block : Nat) (i : Interval) : List Interval :=
  if i.first / block = i.last / block ∨ i.last % block = block - 1 then [i]
  else
    let start := i.last / block * block
    [⟨i.first, start - 1⟩, ⟨start, i.last⟩]

/-- Cuts an interval into parts that lie within a block or consist of whole blocks. -/
def align (block : Nat) (i : Interval) : List Interval :=
  if i.first / block = i.last / block then [i]
  else if i.first % block = 0 then cutTail block i
  else
    let stop := i.first / block * block + block
    ⟨i.first, stop - 1⟩ :: cutTail block ⟨stop, i.last⟩

/-- Cuts an interval of code points into parts that one sequence of byte ranges describes. -/
def parts (i : Interval) : List Interval :=
  (zones.filterMap i.overlap?).flatMap fun i =>
    if i.last < 0x80 then [i]
    else [0x40, 0x1000, 0x40000].foldl (fun is block => is.flatMap (align block)) [i]

/-- The sequences of byte ranges of an interval. -/
def sequences (i : Interval) : List (List Interval) :=
  (parts i).map fun i => (bytes i.first).zipWith Interval.mk (bytes i.last)

example : sequences ⟨0x61, 0x7FF⟩ = [[⟨0x61, 0x7F⟩], [⟨0xC2, 0xDF⟩, ⟨0x80, 0xBF⟩]] := by decide

example : sequences ⟨0xE9, 0x100⟩ =
    [[⟨0xC3, 0xC3⟩, ⟨0xA9, 0xBF⟩], [⟨0xC4, 0xC4⟩, ⟨0x80, 0x80⟩]] := by decide

end Provisioning.Text.Utf8
