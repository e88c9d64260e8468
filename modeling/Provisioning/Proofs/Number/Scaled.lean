import Provisioning.Number.Scaled
import Provisioning.Proofs.Number.Shortest

/-!
Decimals of few digits are read exactly.

A whole number with at most 53 leading bits is a magnitude, and rounding leaves it as it is
(`units_wholeRank`). The powers of ten up to `10 ^ 22` are such numbers. So where the coefficient of
a decimal has 53 bits and its exponent is no further from zero than 22, only the last step rounds,
and what it rounds is the decimal itself (`ofDigits?_eq_ofDecimal?`).
-/

namespace Provisioning.Binary64

/-! ### Whole numbers that are magnitudes -/

/-- All bits of a whole number but the first 53 are zeros. -/
def FewBits (n : Nat) : Prop := ∃ m k, m < 0x20000000000000 ∧ n = m * 2 ^ k

section FewBits

variable {rank num den n e : Nat}

lemma fewBits_of_lt (h : n < 0x20000000000000) : FewBits n := ⟨n, 0, h, (Nat.mul_one n).symm⟩

lemma fewBits_pow_ten (he : e ≤ 22) : FewBits (10 ^ e) := by
  refine ⟨5 ^ e, e, ?_, Nat.mul_pow 5 2 e⟩
  calc 5 ^ e ≤ 5 ^ 22 := Nat.pow_le_pow_right (by decide) he
    _ < 0x20000000000000 := by decide

/-- A mantissa is a magnitude on every scale that is not too low. -/
lemma exists_units {m t : Nat} (hm : m < 0x20000000000000) (ht : 52 ≤ t) :
    ∃ rank, units rank = m * 2 ^ t := by
  rcases Nat.eq_zero_or_pos m with rfl | hpos
  · exact ⟨0, (Nat.zero_mul _).symm⟩
  · -- the mantissa is moved up until its leading bit is in its place
    have hlower : 2 ^ m.log2 ≤ m := Nat.log2_self_le hpos.ne'
    have hupper : m < 2 ^ (m.log2 + 1) := Nat.lt_log2_self
    have hlog : m.log2 < 53 := (Nat.log2_lt hpos.ne').mpr hm
    obtain ⟨k, hk⟩ := Nat.exists_eq_add_of_le (Nat.lt_succ_iff.mp hlog)
    have hlow : 0x10000000000000 ≤ m * 2 ^ k := by
      calc 0x10000000000000 = 2 ^ m.log2 * 2 ^ k := by rw [← Nat.pow_add, ← hk]
        _ ≤ m * 2 ^ k := Nat.mul_le_mul_right _ hlower
    have hhigh : m * 2 ^ k < 0x20000000000000 := by
      calc m * 2 ^ k < 2 ^ (m.log2 + 1) * 2 ^ k :=
            Nat.mul_lt_mul_of_pos_right hupper (Nat.two_pow_pos k)
        _ = 2 * (2 ^ m.log2 * 2 ^ k) := by ring
        _ = 0x20000000000000 := by rw [← Nat.pow_add, ← hk]
    refine ⟨(t - k) * 0x10000000000000 + m * 2 ^ k, ?_⟩
    rw [units_eq hhigh (Or.inr hlow), Nat.mul_assoc, ← Nat.pow_add]
    congr 2
    omega

/-- A quotient that is a magnitude is rounded to it. -/
lemma nearestRank_of_units (hden : 0 < den) (h : num * fineness = units rank * den) :
    nearestRank num den = rank := by
  obtain ⟨s, m, rfl, hm, hs⟩ := exists_mantissa rank
  have hunit : 0 < den * 2 ^ s := Nat.mul_pos hden (Nat.two_pow_pos s)
  rw [units_eq hm hs, Nat.mul_assoc, Nat.mul_comm (2 ^ s)] at h
  refine nearestRank_eq ?_ ?_ ?_ ?_
  all_goals
    rw [h]
    generalize den * 2 ^ s = unit at hunit
  · exact hs.imp_right (Nat.mul_le_mul_right unit)
  · exact Nat.mul_lt_mul_of_pos_right hm hunit
  · rw [Nat.mul_assoc]
    exact Nat.lt_add_of_pos_right hunit
  · rw [← Nat.mul_assoc]
    exact Nat.mul_lt_mul_of_pos_right (Nat.lt_succ_self _) hunit

/-- A whole number with few bits is not changed by rounding. -/
lemma units_wholeRank (h : FewBits n) : units (wholeRank n) = n * fineness := by
  obtain ⟨m, k, hm, rfl⟩ := h
  -- for any shift, as the one in question is not to be evaluated
  have hshift : ∀ t, m * 2 ^ k * (1 <<< t) = m * 2 ^ (k + t) := fun t => by
    rw [Nat.one_shiftLeft, Nat.pow_add, Nat.mul_assoc]
  obtain ⟨rank, hrank⟩ := exists_units (t := k + 1074) hm (by omega)
  have hunits : m * 2 ^ k * fineness = units rank := (hshift 1074).trans hrank.symm
  have hwhole : wholeRank (m * 2 ^ k) = rank :=
    nearestRank_of_units Nat.one_pos (by rw [hunits, Nat.mul_one])
  rw [hwhole, hunits]

/-! ### One rounded step -/

lemma raised_eq (hn : FewBits n) (he : e ≤ 22) :
    raised (wholeRank n) e = nearestRank (n * 10 ^ e) 1 := by
  have hsquare : 1 <<< 2148 = fineness * fineness := by
    have h (a b : Nat) : 1 <<< (a + b) = (1 <<< a) * (1 <<< b) := by
      rw [Nat.one_shiftLeft, Nat.one_shiftLeft, Nat.one_shiftLeft, Nat.pow_add]
    exact h 1074 1074
  have hproduct : units (wholeRank n) * units (powerRank e) = n * 10 ^ e * (1 <<< 2148) := by
    unfold powerRank
    rw [units_wholeRank hn, hsquare]
    change n * fineness * units (wholeRank (10 ^ e)) = _
    rw [units_wholeRank (fewBits_pow_ten he)]
    ring
  unfold raised
  rw [if_pos (by unfold maxPower; omega)]
  refine nearestRank_congr ?_ Nat.one_pos ?_
  · rw [hsquare]
    exact Nat.mul_pos fineness_pos fineness_pos
  · rw [hproduct, Nat.mul_one]

lemma lowered_eq (hn : FewBits n) (he : e ≤ 22) :
    lowered (wholeRank n) e = nearestRank n (10 ^ e) := by
  have hpower : units (powerRank e) = 10 ^ e * fineness := units_wholeRank (fewBits_pow_ten he)
  have hpos : 0 < 10 ^ e := Nat.pow_pos (by decide)
  unfold lowered
  rw [if_pos (by unfold maxPower; omega)]
  refine nearestRank_congr ?_ hpos ?_
  · rw [hpower]
    exact Nat.mul_pos hpos fineness_pos
  · rw [hpower, units_wholeRank hn]
    ring

end FewBits

section Decimals

variable {c : Nat} {e : Int}

/-- A decimal of an ordinary size is read as its quotient. -/
lemma ofDecimal?_eq_ofRatio? (negative : Bool)
    (hlow : -330 ≤ ((Nat.toDigits 10 c).length : Int) + e)
    (hhigh : ((Nat.toDigits 10 c).length : Int) + e ≤ 310) :
    ofDecimal? negative c e = ofRatio? negative (c * tenUp e) (tenDown e) := by
  unfold ofDecimal?
  dsimp only
  rw [decimalRatio_eq]
  by_cases hc : c = 0
  · subst hc
    have hzero : nearestRank (0 * tenUp e) (tenDown e) = 0 := by
      refine nearestRank_of_units (tenDown_pos e) ?_
      rw [Nat.zero_mul, Nat.zero_mul]
      exact (Nat.zero_mul _).symm
    unfold ofRatio?
    rw [if_pos (Or.inl rfl), hzero]
    rfl
  · rw [if_neg (by omega), if_neg (by omega)]

lemma length_toDigits_le (hc : c < 0x20000000000000) : (Nat.toDigits 10 c).length ≤ 16 :=
  (Nat.length_toDigits_le_iff (by decide) (by decide)).mpr (Nat.lt_of_lt_of_le hc (by decide))

/-- No step but the last one rounds. -/
lemma scaled?_eq_ofDecimal? (negative : Bool) (hc : c < 0x20000000000000) (he : e.natAbs ≤ 22) :
    scaled? negative c e = ofDecimal? negative c e := by
  have hlength := length_toDigits_le hc
  rw [ofDecimal?_eq_ofRatio? negative (by omega) (by omega)]
  have hrank : (if 0 ≤ e then raised (wholeRank c) e.toNat else lowered (wholeRank c) (-e).toNat) =
      nearestRank (c * tenUp e) (tenDown e) := by
    unfold tenUp tenDown
    split
    next h =>
      rw [raised_eq (fewBits_of_lt hc) (by omega), Int.toNat_eq_zero.mpr (by omega : -e ≤ 0)]
      rfl
    next h =>
      rw [lowered_eq (fewBits_of_lt hc) (by omega), Int.toNat_eq_zero.mpr (by omega : e ≤ 0),
        Nat.pow_zero, Nat.mul_one]
  unfold scaled? ofRatio?
  dsimp only
  rw [hrank]

end Decimals

/-! ### Digits -/

section Digits

variable {whole fraction ds : List Char} {c : Nat} {e : Int}

/-- A coefficient with more digits behind it. -/
def appendDigits (c : Nat) (ds : List Char) : Nat :=
  ds.foldl (fun n d => n * 10 + (digit? d).getD 0) c

lemma le_appendDigits (c : Nat) (ds : List Char) : c ≤ appendDigits c ds := by
  unfold appendDigits
  induction ds generalizing c with
  | nil => exact Nat.le_refl c
  | cons d ds ih => exact Nat.le_trans (by omega) (ih (c * 10 + (digit? d).getD 0))

/-- The digits of a coefficient that fits are all gathered. -/
lemma gather_eq (h : appendDigits c ds < 0x10000000000000000) :
    gather c ds = (appendDigits c ds, []) := by
  induction ds generalizing c with
  | nil => rfl
  | cons d ds ih =>
    have hnext := le_appendDigits (c * 10 + (digit? d).getD 0) ds
    unfold gather
    dsimp only
    rw [if_pos (Nat.lt_of_le_of_lt hnext h)]
    exact ih h

/-- **A decimal of few digits is read exactly.** -/
theorem ofDigits?_eq_ofDecimal? (negative : Bool)
    (hc : digitsValue (whole ++ fraction) < 0x20000000000000)
    (he : (e - fraction.length).natAbs ≤ 22) :
    ofDigits? negative whole fraction e =
      ofDecimal? negative (digitsValue (whole ++ fraction)) (e - fraction.length) := by
  have hsplit : appendDigits (appendDigits 0 whole) fraction = digitsValue (whole ++ fraction) :=
    List.foldl_append.symm
  have hfraction : appendDigits (appendDigits 0 whole) fraction < 0x10000000000000000 := by
    rw [hsplit]
    omega
  have hwhole := Nat.lt_of_le_of_lt (le_appendDigits _ fraction) hfraction
  have hexponent : e + ([] : List Char).length - (fraction.length - ([] : List Char).length) =
      e - fraction.length := by
    rw [List.length_nil]
    omega
  unfold ofDigits?
  rw [gather_eq hwhole]
  dsimp only
  rw [gather_eq hfraction, hsplit]
  dsimp only
  rw [hexponent, scaled?_eq_ofDecimal? negative hc he]

end Digits

end Provisioning.Binary64
