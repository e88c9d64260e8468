import Mathlib.Tactic.Ring
import Provisioning.Calendar.Timestamp

/-!
Instants and the timestamps that name them.

Counted from March, a year ends with the day that only leap years have, so every year begins where
the one before it ends (`Calendar.yearStart_succ`), and so does every month. Hence no two dates have
the same number (`Date.dayNumber_inj`), and among the timestamps of one offset no two name the same
instant (`Timestamp.eq_of_same`).
-/

namespace Provisioning

namespace Calendar

/-- The days from the first of March of the year 0 to the first of March of a year. -/
def yearStart (y : Int) : Int := 365 * y + y / 4 - y / 100 + y / 400

/-- The days from the first of March to the first of a month counted from March. -/
def monthStart (m : Int) : Int := (153 * m + 2) / 5

/-- A year counted from March has the last of February of the next year. -/
lemma yearStart_succ (y : Int) :
    yearStart (y + 1) = yearStart y + 365 + if isLeapYear (y + 1) then 1 else 0 := by
  unfold yearStart isLeapYear
  simp only [Bool.and_eq_true, Bool.or_eq_true, beq_iff_eq, bne_iff_ne]
  split <;> omega

lemma yearStart_mono {y z : Int} (h : y ≤ z) : yearStart y ≤ yearStart z := by
  unfold yearStart
  omega

lemma monthStart_mono {m n : Int} (h : m ≤ n) : monthStart m ≤ monthStart n := by
  unfold monthStart
  omega

end Calendar

open Calendar

namespace Date

/-- The year, counted from March. -/
def marchYear (d : Date) : Int := if d.month ≤ 2 then d.year - 1 else d.year

/-- The month, counted from March. -/
def marchMonth (d : Date) : Int := (d.month + 9) % 12

/-- The days since the last first of March. -/
def dayOfYear (d : Date) : Int := monthStart d.marchMonth + d.day - 1

variable {d e : Date}

lemma dayNumber_eq (d : Date) : d.dayNumber = yearStart d.marchYear + d.dayOfYear := by
  unfold dayNumber yearStart dayOfYear monthStart marchYear marchMonth
  ring

lemma month_bounds (d : Date) : 1 ≤ d.month ∧ d.month ≤ 12 := by
  obtain ⟨-, -, hone, hday⟩ := d.isDate
  unfold daysInMonth at hday
  split at hday <;> omega

/-- A month ends where the next one begins. Only February, the last, depends on the year. -/
lemma day_le (d : Date) :
    (d.marchMonth < 11 ∧ monthStart d.marchMonth + d.day ≤ monthStart (d.marchMonth + 1)) ∨
      d.marchMonth = 11 ∧ d.day ≤ 28 + if isLeapYear (d.marchYear + 1) then 1 else 0 := by
  obtain ⟨year, month, day, -, -, hone, hday⟩ := d
  unfold marchMonth marchYear monthStart
  dsimp only
  unfold daysInMonth at hday
  split at hday
  case h_12 =>
    have hyear : (if 2 ≤ 2 then year - 1 else year) + 1 = year := by
      rw [if_pos (Nat.le_refl 2)]
      omega
    refine Or.inr ⟨rfl, ?_⟩
    rw [hyear]
    split <;> simp_all
  all_goals
    left
    omega

lemma dayOfYear_bounds (d : Date) :
    0 ≤ d.dayOfYear ∧ d.dayOfYear < 365 + if isLeapYear (d.marchYear + 1) then 1 else 0 := by
  obtain ⟨-, -, hone, -⟩ := d.isDate
  have hmonth : 0 ≤ d.marchMonth := Int.emod_nonneg _ (by decide)
  unfold dayOfYear
  rcases d.day_le with ⟨hearly, hday⟩ | ⟨hlast, hday⟩
  · have hmono := monthStart_mono (Int.add_one_le_of_lt hearly)
    have hend : monthStart 11 = 337 := rfl
    have hstart := monthStart_mono hmonth
    have hzero : monthStart 0 = 0 := rfl
    split <;> omega
  · have hstart : monthStart 11 = 337 := rfl
    rw [hlast, hstart]
    by_cases hleap : isLeapYear (d.marchYear + 1)
    · rw [if_pos hleap] at hday ⊢
      omega
    · rw [if_neg hleap] at hday ⊢
      omega

/-- A date of an earlier year is an earlier day. -/
lemma dayNumber_lt (h : d.marchYear < e.marchYear) : d.dayNumber < e.dayNumber := by
  have hd := d.dayOfYear_bounds.2
  have he := e.dayOfYear_bounds.1
  have hnext := yearStart_succ d.marchYear
  have hmono := yearStart_mono (Int.add_one_le_of_lt h)
  rw [dayNumber_eq, dayNumber_eq]
  omega

/-- A date of an earlier month is an earlier day of the year. -/
lemma dayOfYear_lt (h : d.marchMonth < e.marchMonth) : d.dayOfYear < e.dayOfYear := by
  obtain ⟨-, -, hone, -⟩ := e.isDate
  have hmonth : e.marchMonth < 12 := Int.emod_lt_of_pos _ (by decide)
  have hmono := monthStart_mono (Int.add_one_le_of_lt h)
  have hday : monthStart d.marchMonth + d.day ≤ monthStart (d.marchMonth + 1) :=
    d.day_le.elim And.right fun hlast => by omega
  unfold dayOfYear
  omega

/-- No two dates have the same number. -/
theorem dayNumber_inj (h : d.dayNumber = e.dayNumber) : d = e := by
  have hyear : d.marchYear = e.marchYear := by
    rcases Int.lt_trichotomy d.marchYear e.marchYear with hlt | heq | hgt
    · exact absurd h (Int.ne_of_lt (dayNumber_lt hlt))
    · exact heq
    · exact absurd h (Int.ne_of_gt (dayNumber_lt hgt))
  have hdays : d.dayOfYear = e.dayOfYear := by
    rw [dayNumber_eq, dayNumber_eq, hyear] at h
    omega
  have hmonth : d.marchMonth = e.marchMonth := by
    rcases Int.lt_trichotomy d.marchMonth e.marchMonth with hlt | heq | hgt
    · exact absurd hdays (Int.ne_of_lt (dayOfYear_lt hlt))
    · exact heq
    · exact absurd hdays (Int.ne_of_gt (dayOfYear_lt hgt))
  have hd := d.month_bounds
  have he := e.month_bounds
  unfold dayOfYear at hdays
  rw [hmonth] at hdays
  obtain ⟨year, month, day, _⟩ := d
  obtain ⟨year', month', day', _⟩ := e
  unfold marchMonth at hmonth
  unfold marchYear at hyear
  dsimp only at hd he hdays hmonth hyear
  obtain rfl : month = month' := by omega
  obtain rfl : day = day' := by omega
  obtain rfl : year = year' := by split at hyear <;> omega
  rfl

end Date

namespace Time

/-- The seconds of a day and the nanoseconds of a second tell times apart, leap seconds included. -/
lemma eq_of_secondOfDay {s t : Time} (hsecond : s.secondOfDay = t.secondOfDay)
    (hnano : s.nanosecondOfSecond = t.nanosecondOfSecond) : s = t := by
  obtain ⟨hour, minute, second, nanosecond, hs⟩ := s
  obtain ⟨hour', minute', second', nanosecond', ht⟩ := t
  obtain ⟨-, hminute, hleap, hbillion⟩ := id hs
  obtain ⟨-, hminute', hleap', hbillion'⟩ := id ht
  unfold secondOfDay at hsecond
  unfold nanosecondOfSecond at hnano
  dsimp only at hsecond hnano
  obtain ⟨rfl, rfl⟩ : second = second' ∧ nanosecond = nanosecond' := by
    split at hnano <;> split at hnano <;> omega
  obtain rfl : hour = hour' := by omega
  obtain rfl : minute = minute' := by omega
  rfl

lemma secondOfDay_lt (t : Time) : t.secondOfDay < 86400 := by
  obtain ⟨hhour, hminute, -, -⟩ := t.isTime
  unfold secondOfDay
  omega

end Time

namespace Timestamp

/-- **Timestamps of one offset that name one instant are equal.** -/
theorem eq_of_same {a b : Timestamp} (h : a.same b) (hoffset : a.offset = b.offset) : a = b := by
  obtain ⟨hinstant, hnano⟩ := Bool.and_eq_true_iff.mp h
  rw [beq_iff_eq] at hinstant hnano
  have ha := a.time.secondOfDay_lt
  have hb := b.time.secondOfDay_lt
  unfold instantSecond at hinstant
  have hdate : a.date = b.date := Date.dayNumber_inj (by omega)
  have htime : a.time = b.time := Time.eq_of_secondOfDay (by omega) hnano
  obtain ⟨date, time, offset, _⟩ := a
  obtain ⟨date', time', offset', _⟩ := b
  dsimp only at hoffset hdate htime
  subst hoffset hdate htime
  rfl

end Timestamp

end Provisioning
