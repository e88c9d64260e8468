import Mathlib.Tactic.Linarith
import Mathlib.Tactic.Ring
import Provisioning.Number.Binary64

/-!
Rounding to the nearest floating-point number.

The place to which a quotient is rounded depends on nothing but the quotient
(`nearestRank_congr`). A quotient that is closer to a magnitude than the magnitude divided by
`2 ^ 54` is rounded to it (`nearestRank_of_near`): the next magnitudes are at least twice as far
away, also below a power of two, where they are closer to each other than above it.
-/

namespace Provisioning.Binary64

/-! ### Whole numbers -/

section Even

variable {num den f k : Nat}

/-- A quotient less than a half away from a whole number is rounded to it. -/
lemma nearestEven_eq (hlow : 2 * f * den < 2 * num + den) (hhigh : 2 * num < (2 * f + 1) * den) :
    nearestEven num den = f := by
  have hdiv := Nat.div_add_mod num den
  have hpos : 0 < den := by
    refine Nat.pos_of_ne_zero ?_
    rintro rfl
    simp at hhigh
  have hmod := Nat.mod_lt num hpos
  unfold nearestEven
  dsimp only
  generalize num / den = q at hdiv ⊢
  generalize num % den = r at hdiv hmod ⊢
  subst hdiv
  have hle : q ≤ f := by
    refine Nat.lt_succ_iff.mp (Nat.lt_of_mul_lt_mul_right (a := 2 * den) ?_)
    nlinarith
  have hge : f ≤ q + 1 := by
    refine Nat.lt_succ_iff.mp (Nat.lt_of_mul_lt_mul_right (a := 2 * den) ?_)
    nlinarith
  rcases Nat.le_and_le_add_one_iff.mp ⟨hle, hge⟩ with rfl | rfl
  · rw [if_neg]
    rintro (h | ⟨h, -⟩) <;> nlinarith
  · rw [if_pos]
    refine Or.inl ?_
    nlinarith

lemma nearestEven_mul (hk : 0 < k) (num den : Nat) :
    nearestEven (k * num) (k * den) = nearestEven num den := by
  have hlt : ∀ r, k * den < 2 * (k * r) ↔ den < 2 * r := fun r => by
    rw [Nat.mul_left_comm]
    exact Nat.mul_lt_mul_left hk
  have heq : ∀ r, 2 * (k * r) = k * den ↔ 2 * r = den := fun r => by
    rw [Nat.mul_left_comm]
    exact Nat.mul_right_inj hk.ne'
  unfold nearestEven
  dsimp only
  rw [Nat.mul_div_mul_left _ _ hk, Nat.mul_mod_mul_left, if_congr (or_congr (hlt _)
    (and_congr_left fun _ => heq _)) rfl rfl]

end Even

/-! ### Places -/

/-- How many of the smallest steps make one. The number itself is never needed. -/
def fineness : Nat := 1 <<< 1074

lemma shiftLeft_eq_mul (n k : Nat) : n <<< k = n * (1 <<< k) := by
  rw [Nat.shiftLeft_eq, Nat.one_shiftLeft]

lemma shiftLeft_fineness (n : Nat) : n <<< 1074 = n * fineness := shiftLeft_eq_mul n 1074

lemma fineness_pos : 0 < fineness := by
  have h (k : Nat) : 0 < 1 <<< k := by
    rw [Nat.one_shiftLeft]
    exact Nat.two_pow_pos k
  exact h 1074

section Rank

variable {num den num' den' s f m k : Nat}

lemma nearestRank_mul (hk : 0 < k) (num den : Nat) :
    nearestRank (k * num) (k * den) = nearestRank num den := by
  unfold nearestRank
  dsimp only
  rw [shiftLeft_fineness, shiftLeft_fineness, Nat.shiftLeft_eq, Nat.shiftLeft_eq, Nat.mul_assoc,
    Nat.mul_assoc, Nat.mul_div_mul_left _ _ hk, nearestEven_mul hk]

/-- Equal quotients are rounded to one place. -/
lemma nearestRank_congr (hden : 0 < den) (hden' : 0 < den') (h : num * den' = num' * den) :
    nearestRank num den = nearestRank num' den' := by
  rw [← nearestRank_mul hden' num den, ← nearestRank_mul hden num' den', Nat.mul_comm den' num, h,
    Nat.mul_comm num' den, Nat.mul_comm den' den]

/-- A quotient is rounded on the scale of its size. -/
lemma nearestRank_eq (hscale : s = 0 ∨ 0x10000000000000 * (den * 2 ^ s) ≤ num * fineness)
    (hlt : num * fineness < 0x20000000000000 * (den * 2 ^ s))
    (hlow : 2 * f * (den * 2 ^ s) < 2 * (num * fineness) + den * 2 ^ s)
    (hhigh : 2 * (num * fineness) < (2 * f + 1) * (den * 2 ^ s)) :
    nearestRank num den = s * 0x10000000000000 + f := by
  unfold nearestRank
  dsimp only
  rw [shiftLeft_fineness]
  generalize num * fineness = n at hscale hlt hlow hhigh ⊢
  have hden : 0 < den := Nat.pos_of_ne_zero (by rintro rfl; simp at hlt)
  have hquotient : n / den < 2 ^ (53 + s) := by
    rw [Nat.div_lt_iff_lt_mul hden, Nat.pow_add]
    calc n < 0x20000000000000 * (den * 2 ^ s) := hlt
      _ = 2 ^ 53 * 2 ^ s * den := by ring
  have hlog : (n / den).log2 - 52 = s := by
    rcases hscale with rfl | hscale
    · by_cases hzero : n / den = 0
      · rw [hzero]
        rfl
      · have := (Nat.log2_lt hzero).mpr hquotient
        omega
    · have hle : 2 ^ (52 + s) ≤ n / den := by
        rw [Nat.le_div_iff_mul_le hden, Nat.pow_add]
        calc 2 ^ 52 * 2 ^ s * den = 0x10000000000000 * (den * 2 ^ s) := by ring
          _ ≤ n := hscale
      have hne : n / den ≠ 0 := (Nat.lt_of_lt_of_le (Nat.two_pow_pos _) hle).ne'
      have hlower := (Nat.le_log2 hne).mpr hle
      have hupper := (Nat.log2_lt hne).mpr hquotient
      omega
  rw [hlog, Nat.shiftLeft_eq, nearestEven_eq hlow hhigh]

/-- Every place is a mantissa on a scale; on all scales but the lowest it has its leading bit. -/
lemma exists_mantissa (rank : Nat) :
    ∃ s m, rank = s * 0x10000000000000 + m ∧ m < 0x20000000000000 ∧
      (s = 0 ∨ 0x10000000000000 ≤ m) := by
  refine ⟨scale rank, rank - scale rank * 0x10000000000000, ?_⟩
  unfold scale
  omega

lemma units_eq (hm : m < 0x20000000000000) (hs : s = 0 ∨ 0x10000000000000 ≤ m) :
    units (s * 0x10000000000000 + m) = m * 2 ^ s := by
  have hscale : scale (s * 0x10000000000000 + m) = s := by
    unfold scale
    omega
  unfold units
  rw [hscale, Nat.add_sub_cancel_left, Nat.shiftLeft_eq]

/-- A quotient that is close to a magnitude is rounded to it. -/
theorem nearestRank_of_near {rank : Nat}
    (hlow : units rank * den * 2 ^ 54 < num * fineness * 2 ^ 54 + units rank * den)
    (hhigh : num * fineness * 2 ^ 54 < units rank * den * 2 ^ 54 + units rank * den) :
    nearestRank num den = rank := by
  obtain ⟨s, m, rfl, hm, hs⟩ := exists_mantissa rank
  rw [units_eq hm hs] at hlow hhigh
  have hstep : m * 2 ^ s * den = m * (den * 2 ^ s) := by ring
  rw [hstep] at hlow hhigh
  by_cases hbelow : s ≠ 0 ∧ num * fineness < 0x10000000000000 * (den * 2 ^ s)
  · -- below a power of two the quotient is on the next lower scale
    obtain ⟨hne, hbelow⟩ := hbelow
    obtain ⟨t, rfl⟩ := Nat.exists_eq_succ_of_ne_zero hne
    have hhalf : den * 2 ^ (t + 1) = 2 * (den * 2 ^ t) := by ring
    rw [hhalf] at hlow hhigh hbelow
    generalize hn : num * fineness = n at hlow hhigh hbelow
    generalize hK : den * 2 ^ t = K at hlow hhigh hbelow
    have hmM : m = 0x10000000000000 := by
      by_contra hmne
      have hgt : 0x10000000000001 ≤ m := by omega
      nlinarith
    subst hmM
    have hrank : nearestRank num den = t * 0x10000000000000 + 0x20000000000000 := by
      refine nearestRank_eq (Or.inr ?_) ?_ ?_ ?_
      all_goals
        rw [hn, hK]
        omega
    rw [hrank]
    omega
  · generalize hn : num * fineness = n at hlow hhigh hbelow
    generalize hK : den * 2 ^ s = K at hlow hhigh hbelow
    refine nearestRank_eq ?_ ?_ ?_ ?_
    · rw [hn, hK]
      omega
    all_goals
      rw [hn, hK]
      nlinarith

end Rank

end Provisioning.Binary64
