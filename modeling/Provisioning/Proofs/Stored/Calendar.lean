import Provisioning.Calendar.Timestamp
import Provisioning.Proofs.Stored.Digits

/-!
Dates, times and timestamps that are written and read back.

Every date and every time of day is read from its own text (`Date.ofText?_toText`,
`Time.ofText?_toText`). The text of a timestamp has room for four digits of the year; so every
timestamp in the years 0 to 9999 is read from its own text (`Timestamp.ofText?_toText`), and what is
read is always one of these (`Timestamp.inFourDigits_of_ofText?`).
-/

namespace Provisioning

open Calendar Text

/-- A reader goes on with what its first part reads. -/
lemma bind_of_eq_some {α β : Type} {read : Option α} {a : α} {next : α → Option β}
    (h : read = some a) : read >>= next = next a := by
  rw [h]
  rfl

/-! ### Numbers where blanks are allowed -/

section Blanks

variable {c : Char} {rest : List Char}

lemma isBlank_of_isDigit (h : isDigit c) : isBlank c = false := by
  obtain ⟨hl, hr⟩ := toNat_of_isDigit h
  simp only [isBlank, Bool.or_eq_false_iff, Bool.and_eq_false_imp, decide_eq_true_eq,
    decide_eq_false_iff_not, beq_eq_false_iff_ne]
  omega

lemma skipBlanks_cons (h : isBlank c = false) : skipBlanks (c :: rest) = c :: rest := by
  unfold skipBlanks
  rw [List.dropWhile_cons_of_neg (by rw [h]; exact Bool.false_ne_true)]

lemma skipBlanks_padded (width n : Nat) (rest : List Char) :
    skipBlanks (padded width n ++ rest) = padded width n ++ rest := by
  obtain ⟨c, ds, hds, hc⟩ := exists_padded_eq_cons width n
  rw [hds]
  exact skipBlanks_cons (isBlank_of_isDigit hc)

@[simp] lemma char?_cons (c : Char) (rest : List Char) : char? c (c :: rest) = some rest :=
  if_pos rfl

/-- Two digits of a number are read, and what follows stays. -/
lemma number?_two {n : Nat} (h : n < 100) (rest : List Char) :
    number? 2 (skipBlanks (padded 2 n ++ rest)) = some (n, rest) := by
  rw [skipBlanks_padded, number?_padded (by decide) h]

lemma number?_two_end {n : Nat} (h : n < 100) :
    number? 2 (skipBlanks (padded 2 n)) = some (n, []) := by
  have hread := number?_two h []
  rwa [List.append_nil] at hread

end Blanks

/-! ### Dates -/

namespace Date

lemma number?_padded_hyphen (n : Nat) (rest : List Char) :
    number? (padded 4 n ++ '-' :: rest).length (padded 4 n ++ '-' :: rest) =
      some (n, '-' :: rest) := by
  have hstop : ∀ c ∈ ('-' :: rest).head?, isDigit c = false := by
    rintro c ⟨⟩
    rfl
  rw [number?_append (padded_ne_nil 4 n) (allDigits_padded 4 n) (by simp) (Or.inr hstop),
    digitsValue_padded]

lemma year?_of_isDigit {c : Char} (h : isDigit c) (cs : List Char) :
    year? (c :: cs) = (number? 4 (c :: cs)).map fun (n, rest) => ((n : Int), rest) := by
  unfold year?
  rw [skipBlanks_cons (isBlank_of_isDigit h)]
  split
  next heq => exact absurd (List.cons.inj heq).1 (ne_of_isDigit h rfl)
  next heq => exact absurd (List.cons.inj heq).1 (ne_of_isDigit h rfl)
  next => rfl

lemma year?_minus (cs : List Char) :
    year? ('-' :: cs) = (number? cs.length cs).map fun (n, rest) => (-(n : Int), rest) := rfl

lemma year?_plus (cs : List Char) :
    year? ('+' :: cs) = (number? cs.length cs).map fun (n, rest) => ((n : Int), rest) := rfl

/-- A year is read back, within four digits or with a sign. -/
lemma year?_yearChars (year : Int) (rest : List Char) :
    year? (yearChars year ++ '-' :: rest) = some (year, '-' :: rest) := by
  have hsigned := number?_padded_hyphen year.natAbs rest
  unfold yearChars
  by_cases h : 0 ≤ year ∧ year ≤ 9999
  · have hread : number? 4 (padded 4 year.natAbs ++ '-' :: rest) =
        some (year.natAbs, '-' :: rest) := number?_padded (by decide) (by omega) _
    obtain ⟨c, ds, hds, hc⟩ := exists_padded_eq_cons 4 year.natAbs
    rw [if_pos h]
    rw [hds, List.cons_append] at hread ⊢
    rw [year?_of_isDigit hc, hread]
    exact congrArg (fun y => some (y, '-' :: rest)) (Int.natAbs_of_nonneg h.1)
  · rw [if_neg h]
    by_cases hneg : year < 0
    · rw [if_pos hneg, List.cons_append, year?_minus, hsigned]
      exact congrArg (fun y => some (y, '-' :: rest)) (by omega)
    · rw [if_neg hneg, List.cons_append, year?_plus, hsigned]
      exact congrArg (fun y => some (y, '-' :: rest)) (by omega)

lemma daysInMonth_le (year : Int) (month : Nat) : daysInMonth year month ≤ 31 := by
  unfold daysInMonth
  split <;> first | omega | split <;> omega

lemma month_lt (d : Date) : d.month < 100 := by
  obtain ⟨-, -, h1, h2⟩ := d.isDate
  unfold daysInMonth at h2
  split at h2 <;> omega

lemma day_lt (d : Date) : d.day < 100 := by
  obtain ⟨-, -, -, h⟩ := d.isDate
  have hdays := daysInMonth_le d.year d.month
  omega

lemma ofNumbers?_self (d : Date) : ofNumbers? d.year d.month d.day = some d := dif_pos d.isDate

lemma year_of_ofNumbers? {year : Int} {month day : Nat} {d : Date}
    (h : ofNumbers? year month day = some d) : d.year = year := by
  unfold ofNumbers? at h
  split at h
  next => exact congrArg Date.year (Option.some.inj h).symm
  next => cases h

/-- Every date is read from its own text. -/
lemma ofText?_toText (d : Date) : ofText? d.toText = some d := by
  unfold ofText? toText
  rw [String.toList_ofList]
  have hchars : d.toChars =
      yearChars d.year ++ '-' :: (padded 2 d.month ++ '-' :: padded 2 d.day) := by
    simp [toChars]
  unfold ofChars?
  rw [hchars, bind_of_eq_some (year?_yearChars _ _)]
  dsimp only
  rw [skipBlanks_cons rfl, bind_of_eq_some (char?_cons '-' _),
    bind_of_eq_some (number?_two d.month_lt _)]
  dsimp only
  rw [skipBlanks_cons rfl, bind_of_eq_some (char?_cons '-' _),
    bind_of_eq_some (number?_two_end d.day_lt)]
  exact (if_pos rfl).trans d.ofNumbers?_self

end Date

/-! ### Times -/

namespace Time

lemma ofNumbers?_self (t : Time) :
    ofNumbers? t.hour t.minute t.second t.nanosecond = some t := dif_pos t.isTime

lemma fractionValue_padded {width n : Nat} (hpos : 0 < width) (hle : width ≤ 9)
    (h : n < 10 ^ width) : fractionValue (padded width n) = n * 10 ^ (9 - width) := by
  have hlen := length_padded hpos h
  have hkept : (padded width n).take 9 = padded width n := List.take_of_length_le (by omega)
  unfold fractionValue
  dsimp only
  rw [hkept, digitsValue_padded, hlen]
  rfl

lemma fraction?_point (cs : List Char) :
    fraction? ('.' :: cs) =
      match splitDigits cs.length cs with
      | ([], _) => none
      | (ds, rest) => some (fractionValue ds, rest) := rfl

/-- A fraction is read up to the first character that is no digit. -/
lemma fraction?_padded {width n : Nat} {rest : List Char} (hpos : 0 < width) (hle : width ≤ 9)
    (h : n < 10 ^ width) (hstop : ∀ c ∈ rest.head?, isDigit c = false) :
    fraction? ('.' :: padded width n ++ rest) = some (n * 10 ^ (9 - width), rest) := by
  have hsplit : splitDigits (padded width n ++ rest).length (padded width n ++ rest) =
      (padded width n, rest) :=
    splitDigits_append (allDigits_padded width n) (by simp) (Or.inr hstop)
  have hvalue := fractionValue_padded hpos hle h
  rw [List.cons_append, fraction?_point, hsplit]
  obtain ⟨c, ds, hds, -⟩ := exists_padded_eq_cons width n
  rw [hds] at hvalue ⊢
  exact congrArg (fun n => some (n, rest)) hvalue

/-- The nanoseconds are read back, with the fewest digits that are exact. -/
lemma fraction?_fractionChars {n : Nat} {rest : List Char} (h : n < 1000000000)
    (hstop : ∀ c ∈ rest.head?, isDigit c = false ∧ c ≠ '.') :
    fraction? (fractionChars n ++ rest) = some (n, rest) := by
  have hdigit : ∀ c ∈ rest.head?, isDigit c = false := fun c hc => (hstop c hc).1
  unfold fractionChars
  split
  next hzero =>
    subst hzero
    unfold fraction?
    split
    next rest' heq =>
      obtain rfl : rest = '.' :: rest' := heq
      exact absurd rfl (hstop '.' rfl).2
    next => rfl
  next =>
    split
    next hmilli =>
      rw [fraction?_padded (by decide) (by decide) (by omega) hdigit]
      congr 2
      omega
    next =>
      split
      next hmicro =>
        rw [fraction?_padded (by decide) (by decide) (by omega) hdigit]
        congr 2
        omega
      next =>
        rw [fraction?_padded (by decide) (by decide) (by omega) hdigit]
        congr 2
        omega

/-- Every time of day is read from its own text. -/
lemma ofText?_toText (t : Time) : ofText? t.toText = some t := by
  obtain ⟨hhour, hminute, hsecond, hnano⟩ := t.isTime
  have hchars : t.toChars = padded 2 t.hour ++ ':' :: (padded 2 t.minute ++ ':' ::
      (padded 2 t.second ++ fractionChars t.nanosecond)) := by
    simp [toChars]
  have hfraction : fraction? (fractionChars t.nanosecond) = some (t.nanosecond, []) := by
    have hend : ∀ c ∈ ([] : List Char).head?, isDigit c = false ∧ c ≠ '.' := by simp
    have hread := fraction?_fractionChars hnano hend
    rwa [List.append_nil] at hread
  have hseconds : seconds? (':' :: (padded 2 t.second ++ fractionChars t.nanosecond)) =
      some (t.second, t.nanosecond, []) := by
    unfold seconds?
    rw [skipBlanks_cons rfl, bind_of_eq_some (char?_cons ':' _),
      bind_of_eq_some (number?_two (by omega) _)]
    dsimp only
    rw [hfraction]
    rfl
  unfold ofText? toText
  rw [String.toList_ofList]
  unfold ofChars?
  rw [hchars, bind_of_eq_some (number?_two (by omega) _)]
  dsimp only
  rw [skipBlanks_cons rfl, bind_of_eq_some (char?_cons ':' _),
    bind_of_eq_some (number?_two (by omega) _)]
  dsimp only
  rw [hseconds]
  exact (if_pos rfl).trans t.ofNumbers?_self

end Time

/-! ### Timestamps -/

namespace Timestamp

/-- The year has room in four digits. -/
def InFourDigits (t : Timestamp) : Prop := 0 ≤ t.date.year ∧ t.date.year ≤ 9999

lemma twoDigits?_padded {n : Nat} (h : n < 100) (rest : List Char) :
    twoDigits? (padded 2 n ++ rest) = some (n, rest) := by
  have hlen : (padded 2 n).length = 2 := length_padded (by decide) h
  have hvalue := digitsValue_padded 2 n
  unfold twoDigits?
  rw [splitDigits_append (allDigits_padded 2 n) (Nat.le_of_eq hlen) (Or.inl hlen)]
  match hds : padded 2 n, hlen with
  | [a, b], _ =>
    rw [hds] at hvalue
    dsimp only
    rw [hvalue]

lemma fourDigits?_padded {n : Nat} (h : n < 10000) (rest : List Char) :
    fourDigits? (padded 4 n ++ rest) = some (n, rest) := by
  have hlen : (padded 4 n).length = 4 := length_padded (by decide) h
  have hvalue := digitsValue_padded 4 n
  unfold fourDigits?
  rw [splitDigits_append (allDigits_padded 4 n) (Nat.le_of_eq hlen) (Or.inl hlen)]
  match hds : padded 4 n, hlen with
  | [a, b, c, d], _ =>
    rw [hds] at hvalue
    dsimp only
    rw [hvalue]

lemma offset?_plus {cs : List Char} {n : Nat} (h : offsetSize? cs = some n) :
    offset? ('+' :: cs) = some (n : Int) := by
  simp [offset?, h]

lemma offset?_minus {cs : List Char} {n : Nat} (h : offsetSize? cs = some n) :
    offset? ('-' :: cs) = some (-(n : Int)) := by
  simp [offset?, h]

/-- An offset of less than a day is read back. -/
lemma offset?_offsetChars {offset : Int} (h : offset.natAbs < 24 * 60) :
    offset? (offsetChars offset) = some offset := by
  have hsize : offsetSize? (padded 2 (offset.natAbs / 60) ++ ':' ::
      padded 2 (offset.natAbs % 60)) = some offset.natAbs := by
    have hend := twoDigits?_padded (n := offset.natAbs % 60) (by omega) []
    rw [List.append_nil] at hend
    unfold offsetSize?
    rw [bind_of_eq_some (twoDigits?_padded (by omega) _)]
    dsimp only
    rw [bind_of_eq_some (char?_cons ':' _), bind_of_eq_some hend]
    dsimp only
    rw [if_pos ⟨rfl, Nat.mod_lt _ (by decide)⟩]
    exact congrArg some (Nat.div_add_mod' _ _)
  have hchars : offsetChars offset = (if offset < 0 then '-' else '+') ::
      (padded 2 (offset.natAbs / 60) ++ ':' :: padded 2 (offset.natAbs % 60)) := by
    simp [offsetChars]
  rw [hchars]
  by_cases hneg : offset < 0
  · rw [if_pos hneg, offset?_minus hsize]
    exact congrArg some (by omega)
  · rw [if_neg hneg, offset?_plus hsize]
    exact congrArg some (by omega)

lemma head?_offsetChars (offset : Int) :
    ∀ c ∈ (offsetChars offset).head?, isDigit c = false ∧ c ≠ '.' := by
  unfold offsetChars
  split <;> (rintro c ⟨⟩; decide)

lemma separator?_cons (rest : List Char) : separator? ('T' :: rest) = some rest := rfl

/-- Every timestamp in the years of four digits is read from its own text. -/
lemma ofText?_toText (t : Timestamp) (h : t.InFourDigits) : ofText? t.toText = some t := by
  obtain ⟨hhour, hminute, hsecond, hnano⟩ := t.time.isTime
  obtain ⟨hyear, hyear'⟩ := h
  have hyearNat : (t.date.year.natAbs : Int) = t.date.year := by omega
  have hchars : t.toChars = padded 4 t.date.year.natAbs ++ '-' :: (padded 2 t.date.month ++ '-' ::
      (padded 2 t.date.day ++ 'T' :: (padded 2 t.time.hour ++ ':' :: (padded 2 t.time.minute ++
        ':' :: (padded 2 t.time.second ++ (Time.fractionChars t.time.nanosecond ++
          offsetChars t.offset)))))) := by
    simp [toChars, Date.toChars, Date.yearChars, Time.toChars, hyear, hyear']
  unfold ofText? toText
  rw [String.toList_ofList]
  unfold ofChars?
  rw [hchars, bind_of_eq_some (fourDigits?_padded (by omega) _)]
  dsimp only
  rw [bind_of_eq_some (char?_cons '-' _), bind_of_eq_some (twoDigits?_padded t.date.month_lt _)]
  dsimp only
  rw [bind_of_eq_some (char?_cons '-' _), bind_of_eq_some (twoDigits?_padded t.date.day_lt _)]
  dsimp only
  rw [bind_of_eq_some (separator?_cons _), bind_of_eq_some (twoDigits?_padded (by omega) _)]
  dsimp only
  rw [bind_of_eq_some (char?_cons ':' _), bind_of_eq_some (twoDigits?_padded (by omega) _)]
  dsimp only
  rw [bind_of_eq_some (char?_cons ':' _), bind_of_eq_some (twoDigits?_padded (by omega) _)]
  dsimp only
  rw [bind_of_eq_some (Time.fraction?_fractionChars hnano (head?_offsetChars t.offset))]
  dsimp only
  rw [bind_of_eq_some (offset?_offsetChars t.offset_lt), hyearNat,
    bind_of_eq_some (Date.ofNumbers?_self t.date), bind_of_eq_some (Time.ofNumbers?_self t.time)]
  exact dif_pos t.offset_lt

lemma fourDigits?_lt {cs rest : List Char} {n : Nat} (h : fourDigits? cs = some (n, rest)) :
    n < 10000 := by
  unfold fourDigits? at h
  split at h
  next a b c d _ _ =>
    obtain ⟨rfl, -⟩ := Prod.mk.inj (Option.some.inj h)
    have hlt := digitsValue_lt [a, b, c, d]
    simpa using hlt
  next => cases h

lemma date_of_ofParts? {date : Date} {time : Time} {offset : Int} {t : Timestamp}
    (h : ofParts? date time offset = some t) : t.date = date := by
  unfold ofParts? at h
  split at h
  next => exact congrArg Timestamp.date (Option.some.inj h).symm
  next => cases h

/-- What is read is a timestamp in the years of four digits. -/
lemma inFourDigits_of_ofText? {s : String} {t : Timestamp} (h : ofText? s = some t) :
    t.InFourDigits := by
  unfold ofText? ofChars? at h
  obtain ⟨⟨year, _⟩, hyear, h⟩ := Option.bind_eq_some_iff.mp h
  -- a mark and a number, five times
  iterate 5
    obtain ⟨_, -, h⟩ := Option.bind_eq_some_iff.mp h
    obtain ⟨⟨_, _⟩, -, h⟩ := Option.bind_eq_some_iff.mp h
  obtain ⟨⟨_, _⟩, -, h⟩ := Option.bind_eq_some_iff.mp h
  obtain ⟨offset, -, h⟩ := Option.bind_eq_some_iff.mp h
  obtain ⟨date, hdate, h⟩ := Option.bind_eq_some_iff.mp h
  obtain ⟨time, -, hparts⟩ := Option.bind_eq_some_iff.mp h
  have hlt := fourDigits?_lt hyear
  unfold InFourDigits
  rw [date_of_ofParts? hparts, Date.year_of_ofNumbers? hdate]
  omega

end Timestamp

end Provisioning
