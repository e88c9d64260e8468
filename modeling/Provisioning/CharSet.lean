import Provisioning.Text.CodePoints

/-!
Sets of characters, listed as intervals of code points.

The intervals of a set are kept in ascending order, and two that overlap or touch are one.
Surrogates are no characters: the character after U+D7FF is U+E000, and a set may run across the
gap.
-/

namespace Provisioning

/-- The code points from `first` to `last`. -/
structure Interval where
  first : Nat
  last : Nat
  deriving DecidableEq, Repr

namespace Interval

def contains (i : Interval) (n : Nat) : Bool := i.first ≤ n && n ≤ i.last

/-- What two intervals share. -/
def overlap? (i j : Interval) : Option Interval :=
  let first := max i.first j.first
  let last := min i.last j.last
  if first ≤ last then some ⟨first, last⟩ else none

/-- The character before one. -/
def previous (n : Nat) : Nat := if n = 0xE000 then 0xD7FF else n - 1

/-- The character after one. -/
def next (n : Nat) : Nat := if n = 0xD7FF then 0xE000 else n + 1

/-- The characters between two intervals. Where nothing but surrogates lies between them, these are
their neighbouring ends. -/
def between (i j : Interval) : Interval :=
  let first := next i.last
  let last := previous j.first
  ⟨min first last, max first last⟩

/-- Adds an interval to ascending ones and unites it with those that it overlaps or touches. -/
def insert (i : Interval) : List Interval → List Interval
  | [] => [i]
  | j :: rest =>
    if i.last + 1 < j.first then i :: j :: rest
    else if j.last + 1 < i.first then j :: insert i rest
    else insert ⟨min i.first j.first, max i.last j.last⟩ rest

/-- Merges two ascending lists by their first code points. -/
def merge : List Interval → List Interval → List Interval
  | [], js => js
  | i :: is, js =>
    js.takeWhile (·.first ≤ i.first) ++ i :: merge is (js.dropWhile (·.first ≤ i.first))

/-- What ascending intervals share with others. -/
def common : List Interval → List Interval → List Interval
  | [], _ => []
  | i :: is, js =>
    let js := js.dropWhile (·.last < i.first)
    (js.takeWhile (·.first ≤ i.last)).filterMap i.overlap? ++ common is js

/-- What is left of an interval without those of an ascending list. -/
def cut (i : Interval) : List Interval → List Interval
  | [] => [i]
  | j :: rest =>
    if j.last < i.first then cut i rest
    else if i.last < j.first then [i]
    else
      let before := if i.first < j.first then [⟨i.first, previous j.first⟩] else []
      before ++ if j.last < i.last then cut ⟨next j.last, i.last⟩ rest else []

/-- What is left of ascending intervals without those of another list. -/
def without : List Interval → List Interval → List Interval
  | [], _ => []
  | i :: is, js =>
    let js := js.dropWhile (·.last < i.first)
    cut i (js.takeWhile (·.first ≤ i.last)) ++ without is js

/-- What lies between the neighbours of a list, and after its last interval up to a code point. -/
def gaps (top : Nat) : List Interval → List Interval
  | [] => []
  | [i] => if i.last < top then [⟨next i.last, top⟩] else []
  | i :: j :: rest => between i j :: gaps top (j :: rest)

/-- Whether a code point lies in one of some intervals. -/
def covers (is : List Interval) (n : Nat) : Bool := is.any (·.contains n)

@[simp] theorem covers_nil (n : Nat) : covers [] n = false := rfl

@[simp] theorem covers_cons (i : Interval) (is : List Interval) (n : Nat) :
    covers (i :: is) n = (i.contains n || covers is n) := rfl

@[simp] theorem covers_append (is js : List Interval) (n : Nat) :
    covers (is ++ js) n = (covers is n || covers js n) := List.any_append

@[simp] theorem covers_insert (i : Interval) (is : List Interval) (n : Nat) :
    covers (insert i is) n = (i.contains n || covers is n) := by
  induction is generalizing i with
  | nil => simp [insert]
  | cons j rest ih =>
    unfold insert
    split
    · simp
    · split
      · simp only [covers_cons, ih, Bool.or_left_comm]
      · rw [ih, covers_cons, ← Bool.or_assoc]
        congr 1
        rw [Bool.eq_iff_iff]
        simp only [contains, Bool.or_eq_true, Bool.and_eq_true, decide_eq_true_eq]
        omega

@[simp] theorem covers_merge (is js : List Interval) (n : Nat) :
    covers (merge is js) n = (covers is n || covers js n) := by
  induction is generalizing js with
  | nil => simp [merge]
  | cons i is ih =>
    have split : covers js n = (covers (js.takeWhile (·.first ≤ i.first)) n ||
        covers (js.dropWhile (·.first ≤ i.first)) n) := by
      rw [← covers_append, List.takeWhile_append_dropWhile]
    rw [merge, covers_append, covers_cons, ih, split, covers_cons]
    ac_rfl

end Interval

/-- A set of characters. -/
structure CharSet where
  intervals : List Interval
  deriving DecidableEq, Repr

namespace CharSet

def contains (s : CharSet) (n : Nat) : Bool := Interval.covers s.intervals n

def none : CharSet := ⟨[]⟩

def isEmpty (s : CharSet) : Bool := s.intervals.isEmpty

/-- The code points from `first` to `last`. -/
def range (first last : Nat) : CharSet := ⟨[⟨first, last⟩]⟩

def single (c : Char) : CharSet := range c.toNat c.toNat

def all : CharSet := range 0 0x10FFFF

/-- The set of intervals in any order. -/
def ofIntervals (is : List Interval) : CharSet := ⟨is.foldr Interval.insert []⟩

/-- The set of a table. -/
def ofRuns (rs : List Text.Run) : CharSet :=
  ofIntervals <| rs.flatMap fun r =>
    if r.step = 1 then [⟨r.first, r.last⟩]
    else (List.range ((r.last - r.first) / r.step + 1)).map fun k =>
      ⟨r.first + k * r.step, r.first + k * r.step⟩

def union (a b : CharSet) : CharSet := ofIntervals (Interval.merge a.intervals b.intervals)

def unions (sets : List CharSet) : CharSet := sets.foldl union none

def inter (a b : CharSet) : CharSet := ⟨Interval.common a.intervals b.intervals⟩

/-- The members of the first set that are not in the second. -/
def diff (a b : CharSet) : CharSet := ⟨Interval.without a.intervals b.intervals⟩

/-- The members of exactly one of two sets. -/
def symmetricDiff (a b : CharSet) : CharSet := (a.union b).diff (a.inter b)

/-- The code points up to a last one that are not in the set. -/
def complement (top : Nat) (s : CharSet) : CharSet :=
  match s.intervals with
  | [] => range 0 top
  | i :: rest =>
    let before := if 0 < i.first then [⟨0, Interval.previous i.first⟩] else []
    ⟨before ++ Interval.gaps top (i :: rest)⟩

/-- The one member of the set, if there is exactly one. -/
def only? (s : CharSet) : Option Nat :=
  match s.intervals with
  | [i] => if i.first = i.last then some i.first else Option.none
  | _ => Option.none

def isBelow (bound : Nat) (s : CharSet) : Bool := s.intervals.all (·.last < bound)

@[simp] theorem contains_ofIntervals (is : List Interval) (n : Nat) :
    (ofIntervals is).contains n = Interval.covers is n := by
  induction is with
  | nil => rfl
  | cons i is ih => exact (Interval.covers_insert i _ n).trans (congrArg (i.contains n || ·) ih)

@[simp] theorem contains_union (a b : CharSet) (n : Nat) :
    (a.union b).contains n = (a.contains n || b.contains n) := by
  rw [union, contains_ofIntervals, Interval.covers_merge, contains, contains]

example : ofIntervals [⟨5, 9⟩, ⟨1, 2⟩, ⟨3, 4⟩, ⟨20, 30⟩] = ⟨[⟨1, 9⟩, ⟨20, 30⟩]⟩ := by decide

example : (range 1 9).diff (ofIntervals [⟨3, 4⟩, ⟨9, 12⟩]) = ⟨[⟨1, 2⟩, ⟨5, 8⟩]⟩ := by decide

example : (ofIntervals [⟨1, 2⟩, ⟨7, 9⟩]).complement 9 = ⟨[⟨0, 0⟩, ⟨3, 6⟩]⟩ := by decide

end CharSet

end Provisioning
