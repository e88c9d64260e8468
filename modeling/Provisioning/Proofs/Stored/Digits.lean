import Mathlib.Algebra.Group.Nat.Defs
import Mathlib.Tactic.Lemma
import Provisioning.Attribute.Value
import Provisioning.Calendar.Date

/-!
Decimal digits that are written and read back.

The digits of a number denote it, also behind zeros (`digitsValue_padded`). What is read stops at
the first character that is no digit, so the digits at the beginning of a text are read back
(`Calendar.number?_append`). A whole number that fits into 64 bits is read from its text
(`readInt64_integerText`).
-/

namespace Provisioning

/-! ### Digits -/

lemma isDigit_eq (c : Char) : isDigit c = c.isDigit := by
  unfold isDigit digit? Char.isDigit
  by_cases h : '0' ≤ c ∧ c ≤ '9'
  · rw [if_pos h]
    exact (Bool.and_eq_true_iff.mpr ⟨decide_eq_true h.1, decide_eq_true h.2⟩).symm
  · rw [if_neg h]
    refine (Bool.eq_false_iff.mpr fun hand => h ?_).symm
    obtain ⟨hl, hr⟩ := Bool.and_eq_true_iff.mp hand
    exact ⟨of_decide_eq_true hl, of_decide_eq_true hr⟩

lemma digit?_of_isDigit {c : Char} (h : isDigit c) : digit? c = some (c.toNat - 48) := by
  unfold isDigit digit? at h
  unfold digit?
  split at h
  next hc => rw [if_pos hc]
  next => cases h

lemma toNat_of_isDigit {c : Char} (h : isDigit c) : 48 ≤ c.toNat ∧ c.toNat ≤ 57 := by
  rw [isDigit_eq, Char.isDigit] at h
  obtain ⟨hl, hr⟩ := Bool.and_eq_true_iff.mp h
  exact ⟨of_decide_eq_true hl, of_decide_eq_true hr⟩

lemma hexDigit?_digitChar {n : Nat} (h : n < 16) :
    Text.hexDigit? (Nat.digitChar n) = some n := by
  have hall : ∀ n < 16, Text.hexDigit? (Nat.digitChar n) = some n := by decide
  exact hall n h

/-- All characters are digits. -/
def AllDigits (ds : List Char) : Prop := ∀ c ∈ ds, isDigit c

lemma allDigits_toDigits (n : Nat) : AllDigits (Nat.toDigits 10 n) := fun c hc => by
  rw [isDigit_eq]
  exact Nat.isDigit_of_mem_toDigits (by decide) (Nat.le_refl 10) hc

lemma AllDigits.append {ds ds' : List Char} (h : AllDigits ds) (h' : AllDigits ds') :
    AllDigits (ds ++ ds') := fun c hc => (List.mem_append.mp hc).elim (h c) (h' c)

lemma allDigits_replicate (n : Nat) : AllDigits (List.replicate n '0') := fun c hc => by
  rw [List.eq_of_mem_replicate hc]
  rfl

lemma AllDigits.takeWhile_append {ds : List Char} (h : AllDigits ds) {rest : List Char}
    (hrest : ∀ c ∈ rest.head?, isDigit c = false) :
    (ds ++ rest).takeWhile isDigit = ds ∧ (ds ++ rest).dropWhile isDigit = rest := by
  rw [List.takeWhile_append_of_pos h, List.dropWhile_append_of_pos h]
  cases rest with
  | nil => simp
  | cons c rest => simp [hrest c rfl]

/-- The number that digits denote after those that denote the number so far. -/
def valueAfter (soFar : Nat) (ds : List Char) : Nat :=
  ds.foldl (fun n c => n * 10 + (digit? c).getD 0) soFar

lemma valueAfter_cons {c : Char} (h : isDigit c) (n : Nat) (ds : List Char) :
    valueAfter n (c :: ds) = valueAfter (n * 10 + (c.toNat - 48)) ds := by
  unfold valueAfter
  rw [List.foldl_cons, digit?_of_isDigit h, Option.getD_some]

lemma valueAfter_eq {ds : List Char} (h : AllDigits ds) (n : Nat) :
    valueAfter n ds = Nat.ofDigitChars 10 ds n := by
  induction ds generalizing n with
  | nil => rfl
  | cons c rest ih =>
    obtain ⟨hc, hrest⟩ := List.forall_mem_cons.mp h
    rw [valueAfter_cons hc, ih hrest, Nat.mul_comm]
    rfl

lemma valueAfter_toDigits (n : Nat) : valueAfter 0 (Nat.toDigits 10 n) = n := by
  rw [valueAfter_eq (allDigits_toDigits n), Nat.ofDigitChars_toDigits (by decide) (Nat.le_refl 10)]

lemma digitsValue_toDigits (n : Nat) : digitsValue (Nat.toDigits 10 n) = n := valueAfter_toDigits n

lemma digitsValue_replicate_append (n : Nat) (ds : List Char) :
    digitsValue (List.replicate n '0' ++ ds) = digitsValue ds := by
  induction n with
  | zero => rfl
  | succ n ih => exact ih

lemma valueAfter_lt (n : Nat) (ds : List Char) : valueAfter n ds < (n + 1) * 10 ^ ds.length := by
  induction ds generalizing n with
  | nil => simp [valueAfter]
  | cons c rest ih =>
    have hd : (digit? c).getD 0 ≤ 9 := by
      rcases hc : digit? c with _ | d
      · exact Nat.zero_le 9
      · have hdigit : isDigit c := by
          unfold isDigit
          rw [hc]
          rfl
        have hbound := (toNat_of_isDigit hdigit).2
        rw [digit?_of_isDigit hdigit] at hc
        obtain rfl := Option.some.inj hc
        exact Nat.sub_le_sub_right hbound 48
    calc valueAfter n (c :: rest) < (n * 10 + (digit? c).getD 0 + 1) * 10 ^ rest.length := ih _
      _ ≤ ((n + 1) * 10) * 10 ^ rest.length := Nat.mul_le_mul_right _ (by omega)
      _ = (n + 1) * 10 ^ (c :: rest).length := by
        rw [List.length_cons, Nat.pow_succ', Nat.mul_assoc]

lemma digitsValue_lt (ds : List Char) : digitsValue ds < 10 ^ ds.length := by
  have h := valueAfter_lt 0 ds
  rwa [Nat.zero_add, Nat.one_mul] at h

/-- The digits of a number that is not zero do not begin with a zero. -/
lemma head?_toDigits {n : Nat} (h : n ≠ 0) : (Nat.toDigits 10 n).head? ≠ some '0' := by
  induction n using Nat.strongRecOn with
  | ind n ih =>
    rw [Nat.toDigits_eq_if (by decide)]
    split
    next hlt =>
      intro hzero
      have hn := Nat.toNat_digitChar_of_lt_ten hlt
      rw [Option.some.inj hzero] at hn
      exact h (by simpa using hn.symm)
    next hge =>
      have hne : Nat.toDigits 10 (n / 10) ≠ [] := Nat.toDigits_ne_nil
      obtain ⟨c, ds, hds⟩ := List.exists_cons_of_ne_nil hne
      have hrest := ih (n / 10) (by omega) (by omega)
      rw [hds] at hrest ⊢
      exact hrest

/-! ### Whole numbers -/

/-- Reading on only makes a number larger. -/
lemma le_valueAfter {ds : List Char} (h : AllDigits ds) (n : Nat) : n ≤ valueAfter n ds := by
  induction ds generalizing n with
  | nil => exact Nat.le_refl n
  | cons c rest ih =>
    obtain ⟨hc, hrest⟩ := List.forall_mem_cons.mp h
    have hnext := ih hrest (n * 10 + (c.toNat - 48))
    rw [valueAfter_cons hc]
    omega

lemma readMagnitude_eq_ok {limit soFar : Nat} {beyond : IntFault} {ds : List Char}
    (hds : AllDigits ds) (within : soFar ≤ limit) (h : valueAfter soFar ds ≤ limit) :
    readMagnitude limit beyond soFar within ds = .ok ⟨valueAfter soFar ds, h⟩ := by
  induction ds generalizing soFar with
  | nil => rfl
  | cons c rest ih =>
    obtain ⟨hc, hrest⟩ := List.forall_mem_cons.mp hds
    have hvalue := valueAfter_cons hc soFar rest
    have hnext : soFar * 10 + (c.toNat - 48) ≤ limit := by
      have hle := le_valueAfter hrest (soFar * 10 + (c.toNat - 48))
      omega
    unfold readMagnitude
    rw [digit?_of_isDigit hc]
    dsimp only
    rw [dif_pos hnext, ih hrest hnext (hvalue ▸ h)]
    simp only [hvalue]

lemma readUnsigned_toDigits {n : Nat} (h : Int64Range n) :
    readUnsigned (Nat.toDigits 10 n) = .ok ⟨n, h⟩ := by
  have hvalue := valueAfter_toDigits n
  have hle : valueAfter 0 (Nat.toDigits 10 n) ≤ 0x7FFFFFFFFFFFFFFF := by
    obtain ⟨-, h⟩ := h
    omega
  unfold readUnsigned
  rw [readMagnitude_eq_ok (allDigits_toDigits n) _ hle]
  simp only [Except.map, hvalue]

lemma readNegative_toDigits {n : Nat} (h : Int64Range (-n)) :
    readNegative (Nat.toDigits 10 n) = .ok ⟨-n, h⟩ := by
  have hvalue := valueAfter_toDigits n
  have hle : valueAfter 0 (Nat.toDigits 10 n) ≤ 0x8000000000000000 := by
    obtain ⟨h, -⟩ := h
    omega
  unfold readNegative
  rw [readMagnitude_eq_ok (allDigits_toDigits n) _ hle]
  simp only [Except.map, hvalue]

/-- Digits begin with no sign. -/
lemma exists_toDigits_eq_cons (n : Nat) :
    ∃ c ds, Nat.toDigits 10 n = c :: ds ∧ isDigit c := by
  rcases hds : Nat.toDigits 10 n with _ | ⟨c, ds⟩
  · exact absurd hds Nat.toDigits_ne_nil
  · exact ⟨c, ds, rfl, allDigits_toDigits n c (hds ▸ List.mem_cons_self)⟩

lemma ne_of_isDigit {c d : Char} (hc : isDigit c) (hd : isDigit d = false) : c ≠ d := by
  rintro rfl
  rw [hc] at hd
  cases hd

/-- A whole number that fits into 64 bits is read from its text. -/
lemma readInt64_integerText {n : Int} (h : Int64Range n) :
    readInt64 (AttributeValue.integerText n) = .ok ⟨n, h⟩ := by
  unfold readInt64 AttributeValue.integerText Json.wholeChars
  rw [String.toList_ofList]
  obtain ⟨c, ds, hds, hc⟩ := exists_toDigits_eq_cons n.natAbs
  by_cases hneg : n < 0
  · obtain ⟨m, rfl⟩ : ∃ m : Nat, n = -m := ⟨n.natAbs, by omega⟩
    have hread := readNegative_toDigits h
    rw [Int.natAbs_neg, Int.natAbs_natCast] at hds ⊢
    rw [if_pos hneg]
    rw [hds] at hread ⊢
    exact hread
  · obtain ⟨m, rfl⟩ : ∃ m : Nat, n = m := ⟨n.natAbs, by omega⟩
    have hread := readUnsigned_toDigits h
    rw [Int.natAbs_natCast] at hds ⊢
    rw [if_neg hneg]
    rw [hds] at hread ⊢
    have hplus : c ≠ '+' := ne_of_isDigit hc rfl
    have hminus : c ≠ '-' := ne_of_isDigit hc rfl
    simpa [hplus, hminus] using hread

/-! ### Digits at the beginning of a text -/

namespace Calendar

variable {ds rest : List Char}

/-- Digits are read up to the limit, or up to the first character that is none. -/
lemma splitDigits_append {limit : Nat} (hds : AllDigits ds) (hlen : ds.length ≤ limit)
    (hstop : ds.length = limit ∨ ∀ c ∈ rest.head?, isDigit c = false) :
    splitDigits limit (ds ++ rest) = (ds, rest) := by
  induction ds generalizing limit with
  | nil =>
    cases limit with
    | zero => rfl
    | succ limit =>
      have hhead := hstop.resolve_left (by simp)
      cases rest with
      | nil => rfl
      | cons c rest => simp [splitDigits, hhead c rfl]
  | cons d ds ih =>
    obtain ⟨hd, hds⟩ := List.forall_mem_cons.mp hds
    cases limit with
    | zero => cases hlen
    | succ limit =>
      have hrest := ih hds (Nat.le_of_succ_le_succ hlen) (hstop.imp_left Nat.succ.inj)
      simp [splitDigits, hd, hrest]

/-- A number is read back from the digits at the beginning. -/
lemma number?_append {limit : Nat} (hne : ds ≠ []) (hds : AllDigits ds) (hlen : ds.length ≤ limit)
    (hstop : ds.length = limit ∨ ∀ c ∈ rest.head?, isDigit c = false) :
    number? limit (ds ++ rest) = some (digitsValue ds, rest) := by
  unfold number?
  rw [splitDigits_append hds hlen hstop]
  cases ds with
  | nil => exact absurd rfl hne
  | cons c ds => rfl

/-! ### Padded numbers -/

lemma allDigits_padded (width n : Nat) : AllDigits (padded width n) :=
  (allDigits_replicate _).append (allDigits_toDigits n)

lemma padded_ne_nil (width n : Nat) : padded width n ≠ [] :=
  List.append_ne_nil_of_right_ne_nil _ Nat.toDigits_ne_nil

@[simp] lemma digitsValue_padded (width n : Nat) : digitsValue (padded width n) = n := by
  unfold padded
  rw [digitsValue_replicate_append, digitsValue_toDigits]

lemma length_padded {width n : Nat} (hpos : 0 < width) (h : n < 10 ^ width) :
    (padded width n).length = width := by
  have hle := (Nat.length_toDigits_le_iff (b := 10) (by decide) hpos).mpr h
  unfold padded
  rw [List.length_append, List.length_replicate]
  omega

/-- A padded number of the width is read back, whatever follows. -/
lemma number?_padded {width n : Nat} (hpos : 0 < width) (h : n < 10 ^ width) (rest : List Char) :
    number? width (padded width n ++ rest) = some (n, rest) := by
  have hlen := length_padded hpos h
  rw [number?_append (padded_ne_nil width n) (allDigits_padded width n) (Nat.le_of_eq hlen)
    (Or.inl hlen), digitsValue_padded]

lemma exists_padded_eq_cons (width n : Nat) :
    ∃ c ds, padded width n = c :: ds ∧ isDigit c := by
  rcases hds : padded width n with _ | ⟨c, ds⟩
  · exact absurd hds (padded_ne_nil width n)
  · exact ⟨c, ds, rfl, allDigits_padded width n c (hds ▸ List.mem_cons_self)⟩

end Calendar

end Provisioning
