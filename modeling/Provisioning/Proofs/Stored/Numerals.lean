import Provisioning.Json.Printer
import Provisioning.Json.Numeral
import Provisioning.Proofs.Number.Shortest
import Provisioning.Proofs.Stored.Digits

/-!
The numerals that are written for numbers.

Every number is written as a numeral (`Json.ofChars?_chars`). For a whole number it has digits
alone. The digits of a floating-point number are written with the point in its place, or with one
digit before the point and an exponent; either way they denote the decimal of which the number is
the nearest one (`Json.nearest?_numeral`). So no two numbers are written as one numeral
(`Json.numeral_inj`), whether or not they are read from it.
-/

namespace Provisioning

/-! ### Digits -/

lemma digitsValue_append_zeros {ds : List Char} (k : Nat) :
    digitsValue (ds ++ List.replicate k '0') = digitsValue ds * 10 ^ k := by
  induction k with
  | zero => simp
  | succ k ih =>
    have hzero : (digit? '0').getD 0 = 0 := rfl
    rw [List.replicate_succ', ← List.append_assoc]
    unfold digitsValue at ih ⊢
    rw [List.foldl_append, ih, List.foldl_cons, List.foldl_nil, hzero, Nat.pow_succ, Nat.mul_assoc,
      Nat.add_zero]

/-- An exponent is read with its sign. -/
lemma readExponent?_sign (e : Int) :
    readExponent? ((if e < 0 then '-' else '+') :: Nat.toDigits 10 e.natAbs) = some e := by
  have hds : Nat.toDigits 10 e.natAbs ≠ [] ∧ (Nat.toDigits 10 e.natAbs).all isDigit :=
    ⟨Nat.toDigits_ne_nil, List.all_eq_true.mpr (allDigits_toDigits _)⟩
  split
  next h =>
    change (if _ then some (-(digitsValue _ : Int)) else none) = _
    rw [if_pos hds, digitsValue_toDigits]
    congr 1
    omega
  next h =>
    change (if _ then some (digitsValue _ : Int) else none) = _
    rw [if_pos hds, digitsValue_toDigits]
    congr 1
    omega

namespace Json

namespace Numeral

/-! ### What a numeral denotes -/

/-- The digits of a numeral, the point left out. -/
def coefficient (n : Numeral) : Nat := digitsValue (n.whole ++ n.fraction)

/-- The power of ten of its last digit. -/
def scale (n : Numeral) : Int := n.exponent.getD 0 - n.fraction.length

/-- The floating-point number nearest to what is written. -/
def nearest? (n : Numeral) : Option Binary64 :=
  Binary64.ofDecimal? n.negative n.coefficient n.scale

/-- A numeral denotes a decimal and marks it as a floating-point number. It may have zeros behind
the digits of the decimal. -/
structure Writes (n : Numeral) (negative : Bool) (c : Nat) (e : Int) : Prop where
  sign : n.negative = negative
  marked : n.fraction ≠ [] ∨ n.exponent.isSome
  zeros : ∃ k : Nat, n.coefficient = c * 10 ^ k ∧ n.scale = e - k

lemma Writes.nearest?_eq {n : Numeral} {negative : Bool} {c : Nat} {e : Int}
    (h : n.Writes negative c e) : n.nearest? = Binary64.ofDecimal? negative c e := by
  obtain ⟨k, hcoefficient, hscale⟩ := h.zeros
  unfold nearest?
  rw [h.sign, hcoefficient, hscale, Binary64.ofDecimal?_mul_pow, Int.sub_add_cancel]

/-! ### Reading -/

section Reading

variable {whole fraction more : List Char} {e : Int}

/-- Digits that can stand before the point. -/
structure Whole (ds : List Char) : Prop where
  digits : AllDigits ds
  nonempty : ds ≠ []
  /-- Only zero itself begins with a zero. -/
  leading : ¬(1 < ds.length ∧ ds.head? = some '0')

lemma Whole.not_refused (h : Whole whole) :
    ¬(whole = [] ∨ (1 < whole.length ∧ whole.head? = some '0')) :=
  not_or.mpr ⟨h.nonempty, h.leading⟩

lemma unsigned?_whole (negative : Bool) (hw : Whole whole) :
    unsigned? negative whole = some ⟨negative, whole, [], none⟩ := by
  have hnil : ∀ c ∈ ([] : List Char).head?, isDigit c = false := by simp
  obtain ⟨htake, hdrop⟩ := hw.digits.takeWhile_append hnil
  rw [List.append_nil] at htake hdrop
  unfold unsigned?
  rw [htake, hdrop]
  dsimp only
  rw [if_neg hw.not_refused]
  rfl

/-- A point and digits follow the whole part, and nothing else. -/
lemma unsigned?_point (negative : Bool) (hw : Whole whole) (hf : AllDigits fraction)
    (hne : fraction ≠ []) :
    unsigned? negative (whole ++ '.' :: fraction) = some ⟨negative, whole, fraction, none⟩ := by
  have hpoint : ∀ c ∈ ('.' :: fraction).head?, isDigit c = false := by rintro c ⟨⟩; rfl
  have hnil : ∀ c ∈ ([] : List Char).head?, isDigit c = false := by simp
  obtain ⟨htake, hdrop⟩ := hw.digits.takeWhile_append hpoint
  obtain ⟨hfraction, hend⟩ := hf.takeWhile_append hnil
  rw [List.append_nil] at hfraction hend
  unfold unsigned?
  rw [htake, hdrop]
  dsimp only
  rw [if_neg hw.not_refused]
  change (if fraction.takeWhile isDigit = [] then none
    else some (fraction.takeWhile isDigit, fraction.dropWhile isDigit)).bind _ = _
  rw [hfraction, hend, if_neg hne]
  rfl

/-- A point, digits and an exponent follow the whole part. -/
lemma unsigned?_point_exponent (negative : Bool) (hw : Whole whole) (hf : AllDigits fraction)
    (hne : fraction ≠ []) (he : readExponent? more = some e) :
    unsigned? negative (whole ++ '.' :: (fraction ++ 'e' :: more)) =
      some ⟨negative, whole, fraction, some e⟩ := by
  have hpoint : ∀ c ∈ ('.' :: (fraction ++ 'e' :: more)).head?, isDigit c = false := by
    rintro c ⟨⟩; rfl
  have hmark : ∀ c ∈ ('e' :: more).head?, isDigit c = false := by rintro c ⟨⟩; rfl
  obtain ⟨htake, hdrop⟩ := hw.digits.takeWhile_append hpoint
  obtain ⟨hfraction, hend⟩ := hf.takeWhile_append hmark
  unfold unsigned?
  rw [htake, hdrop]
  dsimp only
  rw [if_neg hw.not_refused]
  change (if (fraction ++ 'e' :: more).takeWhile isDigit = [] then none
    else some ((fraction ++ 'e' :: more).takeWhile isDigit,
      (fraction ++ 'e' :: more).dropWhile isDigit)).bind _ = _
  rw [hfraction, hend, if_neg hne]
  dsimp only [Option.bind_some]
  rw [if_pos (Or.inl rfl), he]
  rfl

/-- An exponent follows the whole part. -/
lemma unsigned?_exponent (negative : Bool) (hw : Whole whole) (he : readExponent? more = some e) :
    unsigned? negative (whole ++ 'e' :: more) = some ⟨negative, whole, [], some e⟩ := by
  have hmark : ∀ c ∈ ('e' :: more).head?, isDigit c = false := by rintro c ⟨⟩; rfl
  obtain ⟨htake, hdrop⟩ := hw.digits.takeWhile_append hmark
  unfold unsigned?
  rw [htake, hdrop]
  dsimp only
  rw [if_neg hw.not_refused]
  change (some ([], 'e' :: more)).bind _ = _
  dsimp only [Option.bind_some]
  rw [if_pos (Or.inl rfl), he]
  rfl

/-- A number without its sign begins with a digit. -/
lemma exists_of_unsigned? {negative : Bool} {cs : List Char} {n : Numeral}
    (h : unsigned? negative cs = some n) : ∃ c rest, cs = c :: rest ∧ isDigit c := by
  rcases cs with _ | ⟨c, rest⟩
  · cases h
  · by_cases hc : isDigit c
    · exact ⟨c, rest, rfl, hc⟩
    · unfold unsigned? at h
      rw [List.takeWhile_cons_of_neg hc, if_pos (Or.inl rfl)] at h
      cases h

/-- What is written of a numeral is its sign and the rest of it. -/
lemma ofChars?_signed {negative : Bool} {cs : List Char} {n : Numeral}
    (h : unsigned? negative cs = some n) :
    ofChars? ((if negative then ['-'] else []) ++ cs) = some n := by
  cases negative with
  | true => exact h
  | false =>
    obtain ⟨c, rest, rfl, hc⟩ := exists_of_unsigned? h
    rw [if_neg Bool.false_ne_true, List.nil_append]
    unfold ofChars?
    split
    next heq => exact absurd (List.cons.inj heq).1 (ne_of_isDigit hc rfl)
    next => exact h

end Reading

/-! ### Floating-point numbers -/

section Written

variable {c : Nat} {e : Int}

/-- The digits of a number can stand before the point, with zeros behind them unless the number is
zero. -/
lemma whole_toDigits {k : Nat} (h : c = 0 → k = 0) :
    Whole (Nat.toDigits 10 c ++ List.replicate k '0') where
  digits := (allDigits_toDigits c).append (allDigits_replicate k)
  nonempty := List.append_ne_nil_of_left_ne_nil Nat.toDigits_ne_nil _
  leading := by
    rintro ⟨hlen, hhead⟩
    rw [List.head?_append_of_ne_nil _ Nat.toDigits_ne_nil] at hhead
    have hzero : c = 0 := by_contra fun hne => head?_toDigits hne hhead
    rw [h hzero, hzero] at hlen
    exact absurd hlen (by decide)

/-- The first digits of a number can stand before the point. -/
lemma whole_take {n : Nat} (hn : n ≠ 0) : Whole ((Nat.toDigits 10 c).take n) where
  digits := fun d hd => allDigits_toDigits c d (List.mem_of_mem_take hd)
  nonempty := by simp [hn, Nat.toDigits_ne_nil]
  leading := by
    rintro ⟨hlen, hhead⟩
    rw [List.head?_take, if_neg hn] at hhead
    have hzero : c = 0 := by_contra fun hne => head?_toDigits hne hhead
    have hle := List.length_take_le n (Nat.toDigits 10 c)
    rw [hzero] at hlen
    rw [List.length_take] at hlen
    have hone : (Nat.toDigits 10 0).length = 1 := rfl
    omega

/-- Digits with the point in its place denote the decimal. -/
lemma writes_positionalChars (negative : Bool) (h : c = 0 → e = 0) :
    ∃ n, unsigned? negative (RealStyle.document.positionalChars
      ⟨Nat.toDigits 10 c, e + (Nat.toDigits 10 c).length - 1⟩) = some n ∧
      n.Writes negative c e := by
  have hds := allDigits_toDigits c
  have hvalue := digitsValue_toDigits c
  have hlen : 0 < (Nat.toDigits 10 c).length := Nat.length_toDigits_pos
  unfold RealStyle.positionalChars
  dsimp only
  split_ifs with hsmall hwhole
  · -- all digits stand behind the point, with zeros before them
    have hzero : Whole ['0'] := whole_toDigits (c := 0) (k := 0) fun _ => rfl
    generalize hk : (-(e + (Nat.toDigits 10 c).length - 1)).toNat - 1 = k
    have hne := List.append_ne_nil_of_right_ne_nil (List.replicate k '0')
      (Nat.toDigits_ne_nil (b := 10) (n := c))
    refine ⟨_, unsigned?_point negative hzero ((allDigits_replicate k).append hds) hne, rfl,
      Or.inl hne, 0, ?_, ?_⟩
    · change digitsValue (['0'] ++ (List.replicate k '0' ++ Nat.toDigits 10 c)) = _
      rw [← List.append_assoc, Nat.pow_zero, Nat.mul_one]
      exact (digitsValue_replicate_append (k + 1) _).trans hvalue
    · change 0 - ((List.replicate k '0' ++ Nat.toDigits 10 c).length : Int) = _
      rw [List.length_append, List.length_replicate]
      omega
  · -- all digits stand before the point, with zeros behind them
    generalize hk : (e + (Nat.toDigits 10 c).length - 1).toNat + 1 -
      (Nat.toDigits 10 c).length = k
    refine ⟨_, unsigned?_point negative (whole_toDigits (k := k) fun hc => by
      have := h hc
      omega) (allDigits_replicate 1) (List.cons_ne_nil _ _), rfl, Or.inl (List.cons_ne_nil _ _),
      k + 1, ?_, ?_⟩
    · change digitsValue (Nat.toDigits 10 c ++ List.replicate k '0' ++ List.replicate 1 '0') = _
      rw [List.append_assoc, List.replicate_append_replicate, digitsValue_append_zeros, hvalue]
    · change 0 - ((List.replicate 1 '0').length : Int) = _
      rw [List.length_replicate]
      omega
  · -- the point parts the digits
    generalize hn : (e + (Nat.toDigits 10 c).length - 1).toNat + 1 = n at hwhole
    have hne : (Nat.toDigits 10 c).drop n ≠ [] := fun hnil =>
      hwhole (List.drop_eq_nil_iff.mp hnil)
    rw [List.append_assoc]
    refine ⟨_, unsigned?_point negative (whole_take (c := c) (n := n) (by omega))
      (fun d hd => hds d (List.mem_of_mem_drop hd)) hne, rfl, Or.inl hne, 0, ?_, ?_⟩
    · change digitsValue ((Nat.toDigits 10 c).take n ++ (Nat.toDigits 10 c).drop n) = _
      rw [List.take_append_drop, hvalue, Nat.pow_zero, Nat.mul_one]
    · change 0 - (((Nat.toDigits 10 c).drop n).length : Int) = _
      rw [List.length_drop]
      omega

/-- Digits with one of them before the point, and an exponent, denote the decimal. -/
lemma writes_scientificChars (negative : Bool) :
    ∃ n, unsigned? negative (RealStyle.scientificChars
      ⟨Nat.toDigits 10 c, e + (Nat.toDigits 10 c).length - 1⟩) = some n ∧
      n.Writes negative c e := by
  have hds := allDigits_toDigits c
  have hvalue := digitsValue_toDigits c
  have hwhole : Whole ((Nat.toDigits 10 c).take 1) := whole_take Nat.one_ne_zero
  have hexponent := readExponent?_sign (e + (Nat.toDigits 10 c).length - 1)
  have hlen : 0 < (Nat.toDigits 10 c).length := Nat.length_toDigits_pos
  unfold RealStyle.scientificChars
  dsimp only
  by_cases hone : (Nat.toDigits 10 c).drop 1 = []
  · have hle := List.drop_eq_nil_iff.mp hone
    rw [if_pos hone, List.append_nil, List.append_assoc]
    refine ⟨_, unsigned?_exponent negative hwhole hexponent, rfl, Or.inr rfl, 0, ?_, ?_⟩
    · change digitsValue ((Nat.toDigits 10 c).take 1 ++ []) = _
      rw [List.append_nil, List.take_of_length_le hle, hvalue, Nat.pow_zero, Nat.mul_one]
    · change e + (Nat.toDigits 10 c).length - 1 - (([] : List Char).length : Int) = _
      rw [List.length_nil]
      omega
  · rw [if_neg hone, List.append_assoc, List.append_assoc]
    refine ⟨_, unsigned?_point_exponent negative hwhole
      (fun d hd => hds d (List.mem_of_mem_drop hd)) hone hexponent, rfl, Or.inr rfl, 0, ?_, ?_⟩
    · change digitsValue ((Nat.toDigits 10 c).take 1 ++ (Nat.toDigits 10 c).drop 1) = _
      rw [List.take_append_drop, hvalue, Nat.pow_zero, Nat.mul_one]
    · change e + (Nat.toDigits 10 c).length - 1 - (((Nat.toDigits 10 c).drop 1).length : Int) = _
      rw [List.length_drop]
      omega

/-- A floating-point number is written as a decimal to which it is the nearest one. -/
lemma exists_writes_real (x : Binary64) :
    ∃ n c e, ofChars? (RealStyle.document.chars x) = some n ∧ n.Writes x.negative c e ∧
      Binary64.ofDecimal? x.negative c e = some x := by
  obtain ⟨c, e, hshortest, hread, hzero⟩ := Binary64.exists_shortest RealStyle.document.tie x
  obtain ⟨n, hn, hwrites⟩ : ∃ n, unsigned? x.negative
      (if RealStyle.document.positional (Binary64.shortest RealStyle.document.tie x.rank).exponent
        then RealStyle.document.positionalChars (Binary64.shortest RealStyle.document.tie x.rank)
        else RealStyle.scientificChars (Binary64.shortest RealStyle.document.tie x.rank)) =
        some n ∧ n.Writes x.negative c e := by
    rw [hshortest]
    split
    · exact writes_positionalChars x.negative hzero
    · exact writes_scientificChars x.negative
  exact ⟨n, c, e, ofChars?_signed hn, hwrites, hread⟩

end Written

end Numeral

/-! ### Numbers -/

/-- The numeral that is written for a number. -/
def Number.numeral (n : Number) : Numeral :=
  (Numeral.ofChars? n.chars).getD ⟨false, [], [], none⟩

/-- The text of a number is read as the number. -/
def Number.ReadsBack (n : Number) : Prop :=
  (Numeral.ofChars? n.chars).bind Numeral.value? = some n

section Numbers

open Numeral

lemma ofChars?_wholeChars (n : Int) :
    ofChars? (wholeChars n) = some ⟨n < 0, Nat.toDigits 10 n.natAbs, [], none⟩ := by
  have hwhole : Whole (Nat.toDigits 10 n.natAbs ++ List.replicate 0 '0') :=
    whole_toDigits fun _ => rfl
  rw [List.replicate_zero, List.append_nil] at hwhole
  have hsigned := ofChars?_signed (unsigned?_whole (decide (n < 0)) hwhole)
  unfold wholeChars
  simpa using hsigned

/-- **Every number is written as a numeral.** -/
theorem ofChars?_chars (n : Number) : ofChars? n.chars = some n.numeral := by
  have hsome : (ofChars? n.chars).isSome := by
    cases n with
    | whole n h => exact Option.isSome_iff_exists.mpr ⟨_, ofChars?_wholeChars n⟩
    | real x =>
      obtain ⟨n, _, _, hn, -⟩ := exists_writes_real x
      exact Option.isSome_iff_exists.mpr ⟨n, hn⟩
  obtain ⟨l, hl⟩ := Option.isSome_iff_exists.mp hsome
  unfold Number.numeral
  rw [hl]
  rfl

lemma readsBack_iff {n : Number} : n.ReadsBack ↔ n.numeral.value? = some n := by
  unfold Number.ReadsBack
  rw [ofChars?_chars]
  rfl

lemma numeral_whole (n : Int) (h : WholeRange n) :
    (Number.whole n h).numeral = ⟨n < 0, Nat.toDigits 10 n.natAbs, [], none⟩ :=
  Option.some.inj ((ofChars?_chars (.whole n h)).symm.trans (ofChars?_wholeChars n))

/-- Digits alone are read as a whole number that fits. -/
lemma value?_digits {negative : Bool} {m : Nat} {n : Int}
    (hn : (if negative then -(m : Int) else m) = n) (hzero : ¬(negative ∧ m = 0))
    (h : WholeRange n) :
    value? ⟨negative, Nat.toDigits 10 m, [], none⟩ = some (.whole n h) := by
  subst hn
  unfold value?
  dsimp only
  rw [digitsValue_toDigits, if_neg (by simp), if_neg hzero, dif_pos h]

/-- Whole numbers are read back. -/
lemma readsBack_whole (n : Int) (h : WholeRange n) : (Number.whole n h).ReadsBack := by
  rw [readsBack_iff, numeral_whole]
  by_cases hneg : n < 0
  · exact value?_digits (by rw [decide_eq_true hneg, if_pos rfl]; omega) (by omega) h
  · rw [decide_eq_false hneg]
    exact value?_digits (by rw [if_neg Bool.false_ne_true]; omega) (by simp) h

/-- Floating-point numbers are nearest to what is written for them, and marked. -/
lemma nearest?_numeral (x : Binary64) :
    (Number.real x).numeral.nearest? = some x ∧
      ((Number.real x).numeral.fraction ≠ [] ∨ (Number.real x).numeral.exponent.isSome) := by
  obtain ⟨n, c, e, hn, hwrites, hread⟩ := exists_writes_real x
  obtain rfl := Option.some.inj ((ofChars?_chars (.real x)).symm.trans hn)
  exact ⟨hwrites.nearest?_eq.trans hread, hwrites.marked⟩

/-- **No two numbers are written as one numeral.** -/
theorem numeral_inj {m n : Number} (h : m.numeral = n.numeral) : m = n := by
  have hmarked : ∀ k hk x, (Number.whole k hk).numeral ≠ (Number.real x).numeral := by
    intro k hk x hkx
    obtain ⟨-, hfraction | hexponent⟩ := nearest?_numeral x
    · rw [← hkx, numeral_whole] at hfraction
      exact hfraction rfl
    · rw [← hkx, numeral_whole] at hexponent
      cases hexponent
  cases m with
  | whole k hk =>
    cases n with
    | whole l hl =>
      have hread := readsBack_iff.mp (readsBack_whole k hk)
      rw [h, readsBack_iff.mp (readsBack_whole l hl)] at hread
      exact (Option.some.inj hread).symm
    | real y => exact absurd h (hmarked k hk y)
  | real x =>
    cases n with
    | whole l hl => exact absurd h.symm (hmarked l hl x)
    | real y =>
      have hread := (nearest?_numeral x).1
      rw [h, (nearest?_numeral y).1] at hread
      rw [Option.some.inj hread]

end Numbers

end Json

end Provisioning
