import Mathlib.Data.Nat.Factorization.Basic
import Mathlib.Tactic.SplitIfs
import Provisioning.Number.Shortest
import Provisioning.Proofs.Number.Nearest

/-!
The fewest digits that read back.

On the grid of 17 digits one of the two neighbours of a magnitude is close enough to be rounded to
it, so the search for the fewest digits never fails (`exists_onGrid`). The digits that are found,
without the zeros at their end, denote a decimal that is read as the number (`exists_shortest`).
-/

namespace Provisioning.Binary64

/-! ### Powers of ten -/

/-- The numerator of a power of ten. -/
def tenUp (exponent : Int) : Nat := 10 ^ exponent.toNat

/-- The denominator of a power of ten. -/
def tenDown (exponent : Int) : Nat := 10 ^ (-exponent).toNat

section Powers

variable {rank c k : Nat} {e : Int}

lemma tenDown_pos (e : Int) : 0 < tenDown e := Nat.pow_pos (by decide)

lemma decimalRatio_eq (c : Nat) (e : Int) : decimalRatio c e = (c * tenUp e, tenDown e) := by
  unfold decimalRatio tenUp tenDown
  split
  next h => rw [Int.toNat_eq_zero.mpr (by omega : -e ≤ 0)]; rfl
  next h => rw [Int.toNat_eq_zero.mpr (by omega : e ≤ 0), Nat.pow_zero, Nat.mul_one]; rfl

lemma gridRatio_eq (rank : Nat) (e : Int) :
    gridRatio rank e = (units rank * tenDown e, tenUp e * fineness) := by
  unfold gridRatio tenUp tenDown
  split
  next h =>
    rw [Int.toNat_eq_zero.mpr (by omega : -e ≤ 0), Nat.pow_zero, Nat.mul_one, shiftLeft_fineness]
    rfl
  next h =>
    rw [Int.toNat_eq_zero.mpr (by omega : e ≤ 0), Nat.pow_zero, Nat.one_mul]
    rfl

/-- Powers of ten multiply. -/
lemma tenUp_mul_tenDown {a b : Int} (k : Nat) (h : a = b + k) :
    tenUp a * tenDown b = 10 ^ k * (tenUp b * tenDown a) := by
  unfold tenUp tenDown
  rw [← Nat.pow_add, ← Nat.pow_add, ← Nat.pow_add]
  congr 1
  omega

end Powers

/-! ### Zeros at the end -/

section Zeros

variable {c k : Nat}

/-- Multiplying by a power of ten appends zeros. -/
lemma toDigits_mul_pow (hc : 0 < c) (k : Nat) :
    Nat.toDigits 10 (c * 10 ^ k) = Nat.toDigits 10 c ++ List.replicate k '0' := by
  induction k with
  | zero => simp
  | succ k ih =>
    have hpos : 0 < c * 10 ^ k := Nat.mul_pos hc (Nat.pow_pos (by decide))
    have happend := Nat.toDigits_append_toDigits (b := 10) (d := 0) (by decide) hpos (by decide)
    have hten : c * 10 ^ (k + 1) = 10 * (c * 10 ^ k) + 0 := by ring
    rw [hten, ← happend, ih, List.replicate_succ', List.append_assoc]
    rfl

/-- A number that ten does not divide has no zero at its end. -/
lemma exists_toDigits_eq_append (hc : c % 10 ≠ 0) :
    ∃ ds d, Nat.toDigits 10 c = ds ++ [d] ∧ d ≠ '0' := by
  have hdigit : ∀ n < 10, n ≠ 0 → Nat.digitChar n ≠ '0' := by decide
  have hlt : c % 10 < 10 := Nat.mod_lt c (by decide)
  rw [Nat.toDigits_eq_if (by decide)]
  split
  next hsmall => exact ⟨[], _, rfl, hdigit c hsmall fun h => hc (by rw [h])⟩
  next => exact ⟨_, _, rfl, hdigit _ hlt hc⟩

/-- The digits of a number that ten does not divide are left when zeros are removed. -/
lemma stripZeros_toDigits (hc : c % 10 ≠ 0) (k : Nat) :
    stripZeros (Nat.toDigits 10 (c * 10 ^ k)) = Nat.toDigits 10 c := by
  have hpos : 0 < c := Nat.pos_of_ne_zero fun h => hc (by rw [h])
  obtain ⟨ds, d, hds, hd⟩ := exists_toDigits_eq_append hc
  have hzeros : ∀ z ∈ List.replicate k '0', (z == '0') = true := fun z hz => by
    rw [List.eq_of_mem_replicate hz]
    rfl
  unfold stripZeros
  rw [toDigits_mul_pow hpos, hds, List.reverse_append, List.reverse_replicate,
    List.dropWhile_append_of_pos hzeros, List.reverse_append, List.reverse_singleton,
    List.singleton_append, List.dropWhile_cons_of_neg (by simpa using hd), List.reverse_cons,
    List.reverse_reverse]
  split
  next h => simp at h
  next => rfl

end Zeros

/-! ### Decimals that are read -/

section Reading

variable {rank c : Nat} {e : Int}

/-- Zeros at the end of a coefficient count like the exponent. -/
lemma ofDecimal?_mul_pow (negative : Bool) (c k : Nat) (e : Int) :
    ofDecimal? negative (c * 10 ^ k) e = ofDecimal? negative c (e + k) := by
  rcases Nat.eq_zero_or_pos c with rfl | hc
  · simp [ofDecimal?]
  · have hlength : ((Nat.toDigits 10 (c * 10 ^ k)).length : Int) + e =
        (Nat.toDigits 10 c).length + (e + k) := by
      rw [toDigits_mul_pow hc, List.length_append, List.length_replicate]
      omega
    have hzero : c * 10 ^ k = 0 ↔ c = 0 := by
      simp
    have hratio : nearestRank (c * 10 ^ k * tenUp e) (tenDown e) =
        nearestRank (c * tenUp (e + k)) (tenDown (e + k)) := by
      refine nearestRank_congr (tenDown_pos _) (tenDown_pos _) ?_
      have hpower := tenUp_mul_tenDown (a := e + k) (b := e) k rfl
      calc c * 10 ^ k * tenUp e * tenDown (e + k)
          = c * (10 ^ k * (tenUp e * tenDown (e + k))) := by ring
        _ = c * tenUp (e + k) * tenDown e := by rw [← hpower]; ring
    unfold ofDecimal?
    simp only [hlength, hzero, decimalRatio_eq, ofRatio?, hratio]

/-- A decimal of an ordinary size that rounds to a place is read as the number there. -/
lemma ofDecimal?_of_readsBack (negative : Bool) (hrank : rank < 2047 * 0x10000000000000)
    (hc : c ≠ 0) (hread : readsBack rank c e)
    (hlow : -330 ≤ ((Nat.toDigits 10 c).length : Int) + e)
    (hhigh : ((Nat.toDigits 10 c).length : Int) + e ≤ 310) :
    ofDecimal? negative c e = some ⟨negative, rank, hrank⟩ := by
  unfold readsBack at hread
  rw [decimalRatio_eq] at hread
  have hnearest : nearestRank (c * tenUp e) (tenDown e) = rank := beq_iff_eq.mp hread
  unfold ofDecimal?
  dsimp only
  rw [if_neg (by omega), if_neg (by omega), decimalRatio_eq]
  unfold ofRatio?
  dsimp only
  generalize nearestRank (c * tenUp e) (tenDown e) = place at hnearest ⊢
  subst hnearest
  exact dif_pos hrank

end Reading

/-! ### The search -/

section Search

variable {rank c n num den : Nat} {e : Int} {tie : Tie}

lemma units_pos (hrank : rank ≠ 0) : 0 < units rank := by
  obtain ⟨s, m, rfl, hm, hs⟩ := exists_mantissa rank
  rw [units_eq hm hs]
  exact Nat.mul_pos (by omega) (Nat.two_pow_pos s)

lemma units_lt {limit : Nat} (hrank : rank < (limit + 2) * 0x10000000000000) :
    units rank < 0x20000000000000 * 2 ^ limit := by
  obtain ⟨s, m, rfl, hm, hs⟩ := exists_mantissa rank
  rw [units_eq hm hs]
  exact Nat.mul_lt_mul_of_lt_of_le hm (Nat.pow_le_pow_right (by decide) (by omega))
    (Nat.two_pow_pos limit)

/-- A whole number has as many digits as the power of ten above it says. -/
lemma pow_length_toDigits {n : Nat} (hn : 0 < n) :
    10 ^ ((Nat.toDigits 10 n).length - 1) ≤ n ∧ n < 10 ^ (Nat.toDigits 10 n).length := by
  have hpos : 0 < (Nat.toDigits 10 n).length := Nat.length_toDigits_pos
  refine ⟨?_, (Nat.length_toDigits_le_iff (by decide) hpos).mp (Nat.le_refl _)⟩
  rcases Nat.eq_zero_or_pos ((Nat.toDigits 10 n).length - 1) with hone | hmany
  · rw [hone]
    exact hn
  · by_contra hlt
    have hle := (Nat.length_toDigits_le_iff (by decide) hmany).mpr (Nat.lt_of_not_le hlt)
    omega

/-- Where a quotient has digits before the point, they tell its size. -/
lemma pow_length_quotient {num den limit : Nat} (hden : 0 < den) (hone : den ≤ num)
    (hlimit : 0 < limit) (hlt : num < 10 ^ limit * den) :
    ∃ count, (Nat.toDigits 10 (num / den)).length = count ∧ 1 ≤ count ∧ count ≤ limit ∧
      10 ^ (count - 1) * den ≤ num ∧ num < 10 ^ count * den := by
  obtain ⟨hlower, hupper⟩ := pow_length_toDigits (Nat.div_pos hone hden)
  exact ⟨_, rfl, Nat.length_toDigits_pos,
    (Nat.length_toDigits_le_iff (by decide) hlimit).mpr ((Nat.div_lt_iff_lt_mul hden).mpr hlt),
    (Nat.le_div_iff_mul_le hden).mp hlower, (Nat.div_lt_iff_lt_mul hden).mp hupper⟩

/-- The point of a magnitude tells its size. -/
lemma decimalPoint_spec (hrank : rank ≠ 0) (hlt : rank < 2047 * 0x10000000000000) :
    ∃ count : Nat, decimalPoint rank = count - headroom ∧ 1 ≤ count ∧ count ≤ 633 ∧
      10 ^ (count - 1) * fineness ≤ units rank * 10 ^ headroom ∧
      units rank * 10 ^ headroom < 10 ^ count * fineness := by
  have hfine : fineness ≤ 10 ^ headroom := by decide +kernel
  have htop : 0x20000000000000 * 2 ^ 2045 * 10 ^ headroom ≤ 10 ^ 633 * fineness := by
    decide +kernel
  have hpos : 0 < 10 ^ headroom := Nat.pow_pos (by decide)
  have hupper : units rank * 10 ^ headroom < 10 ^ 633 * fineness :=
    Nat.lt_of_lt_of_le (Nat.mul_lt_mul_of_pos_right (units_lt hlt) hpos) htop
  have hlower : fineness ≤ units rank * 10 ^ headroom :=
    Nat.le_trans hfine (Nat.le_mul_of_pos_left _ (units_pos hrank))
  obtain ⟨count, hcount, hspec⟩ := pow_length_quotient fineness_pos hlower (by decide) hupper
  have hpow (digits : Nat) : Nat.pow 10 digits = 10 ^ digits := rfl
  refine ⟨count, ?_, hspec⟩
  unfold decimalPoint
  rw [hpow, shiftLeft_fineness, Nat.one_mul, hcount]

/-- The magnitude has so many steps of a power of ten as the point says. -/
lemma gridRatio_bounds (hrank : rank ≠ 0) (hlt : rank < 2047 * 0x10000000000000)
    (hgrid : gridRatio rank (decimalPoint rank - (n + 1)) = (num, den)) :
    10 ^ n * den ≤ num ∧ num < 10 ^ (n + 1) * den := by
  obtain ⟨count, hpoint, hone, -, hlower, hupper⟩ := decimalPoint_spec hrank hlt
  generalize he : decimalPoint rank - (n + 1) = e at hgrid
  rw [gridRatio_eq] at hgrid
  obtain ⟨rfl, rfl⟩ := Prod.mk.inj hgrid
  generalize fineness = fine at *
  have hpos : 0 < 10 ^ headroom := Nat.pow_pos (by decide)
  have hpower : 10 ^ n * tenUp e * 10 ^ headroom = 10 ^ (count - 1) * tenDown e := by
    unfold tenUp tenDown
    rw [← Nat.pow_add, ← Nat.pow_add, ← Nat.pow_add]
    congr 1
    omega
  have hten : 10 ^ count = 10 * 10 ^ (count - 1) := by
    rw [← Nat.pow_succ']
    congr 1
    omega
  generalize 10 ^ headroom = room at *
  refine ⟨Nat.le_of_mul_le_mul_right ?_ hpos, Nat.lt_of_mul_lt_mul_right (a := room) ?_⟩
  · calc 10 ^ n * (tenUp e * fine) * room = 10 ^ n * tenUp e * room * fine := by ring
      _ = 10 ^ (count - 1) * fine * tenDown e := by rw [hpower]; ring
      _ ≤ units rank * room * tenDown e := Nat.mul_le_mul_right _ hlower
      _ = units rank * tenDown e * room := by ring
  · calc units rank * tenDown e * room = units rank * room * tenDown e := by ring
      _ < 10 ^ count * fine * tenDown e := Nat.mul_lt_mul_of_pos_right hupper (tenDown_pos e)
      _ = 10 * (10 ^ (count - 1) * tenDown e) * fine := by rw [hten]; ring
      _ = 10 ^ (n + 1) * (tenUp e * fine) * room := by rw [← hpower]; ring

lemma nearer_eq (tie : Tie) (num den : Nat) :
    nearer tie num den = num / den ∨ nearer tie num den = num / den + 1 := by
  unfold nearer
  dsimp only
  split_ifs
  · exact Or.inl rfl
  · exact Or.inr rfl
  all_goals cases tie <;> simp

lemma pick_eq_some {near low high : Nat} {a b : Bool} (hnear : near = low ∨ near = high)
    (h : pick near low high a b = some c) : a ∧ c = low ∨ b ∧ c = high := by
  cases a <;> cases b <;> simp_all [pick]

lemma isSome_pick {near low high : Nat} {a b : Bool} (h : a ∨ b) :
    (pick near low high a b).isSome := by
  cases a <;> cases b <;> simp_all [pick]

lemma onGrid?_eq (hgrid : gridRatio rank e = (num, den)) :
    onGrid? tie rank e = pick (nearer tie num den) (num / den) (num / den + 1)
      (readsBack rank (num / den) e) (readsBack rank (num / den + 1) e) := by
  unfold onGrid?
  rw [hgrid]

/-- What is found on a grid is a neighbour of the magnitude that reads back. -/
lemma onGrid?_spec (hgrid : gridRatio rank e = (num, den)) (h : onGrid? tie rank e = some c) :
    readsBack rank c e ∧ (c = num / den ∨ c = num / den + 1) := by
  rw [onGrid?_eq hgrid] at h
  rcases pick_eq_some (nearer_eq tie num den) h with ⟨hread, rfl⟩ | ⟨hread, rfl⟩
  · exact ⟨hread, Or.inl rfl⟩
  · exact ⟨hread, Or.inr rfl⟩

/-- A grid point that is close to a magnitude reads back. -/
lemma readsBack_of_near (hgrid : gridRatio rank e = (num, den))
    (hlow : num * 2 ^ 54 < c * den * 2 ^ 54 + num)
    (hhigh : c * den * 2 ^ 54 < num * 2 ^ 54 + num) : readsBack rank c e := by
  rw [gridRatio_eq] at hgrid
  obtain ⟨rfl, rfl⟩ := Prod.mk.inj hgrid
  unfold readsBack
  rw [decimalRatio_eq]
  rw [← Nat.mul_assoc] at hlow hhigh
  exact beq_iff_eq.mpr (nearestRank_of_near hlow hhigh)

/-- On a grid of 17 digits a neighbour of the magnitude reads back. -/
lemma isSome_onGrid? (hgrid : gridRatio rank e = (num, den)) (hden : 0 < den)
    (h : 10 ^ 16 * den ≤ num) : (onGrid? tie rank e).isSome := by
  have hnear : readsBack rank (num / den) e ∨ readsBack rank (num / den + 1) e := by
    have hdiv : num / den * den + num % den = num := by
      rw [Nat.mul_comm]
      exact Nat.div_add_mod num den
    have hmod := Nat.mod_lt num hden
    have hlow := readsBack_of_near (c := num / den) hgrid
    have hhigh := readsBack_of_near (c := num / den + 1) hgrid
    rw [Nat.add_mul] at hhigh
    generalize num / den * den = whole at *
    by_cases hhalf : 2 * (num % den) ≤ den
    · exact Or.inl (hlow (by omega) (by omega))
    · exact Or.inr (hhigh (by omega) (by omega))
  rw [onGrid?_eq hgrid]
  exact isSome_pick hnear

/-- The search for the fewest digits finds a neighbour of the magnitude that reads back. -/
lemma exists_firstOnGrid? (tie : Tie) (hrank : rank ≠ 0) (hlt : rank < 2047 * 0x10000000000000) :
    ∃ (n : Nat) (c : Nat), firstOnGrid? tie rank = some (c, decimalPoint rank - (n + 1)) ∧
      onGrid? tie rank (decimalPoint rank - (n + 1)) = some c := by
  have hsome : (firstOnGrid? tie rank).isSome := by
    rcases hgrid : gridRatio rank (decimalPoint rank - ((16 : Nat) + 1)) with ⟨num, den⟩
    obtain ⟨hlower, hupper⟩ := gridRatio_bounds hrank hlt hgrid
    have hden : 0 < den := Nat.pos_of_ne_zero (by rintro rfl; simp at hupper)
    refine List.findSome?_isSome_iff.mpr ⟨16, List.mem_range.mpr (by decide), ?_⟩
    rw [Option.isSome_map]
    exact isSome_onGrid? hgrid hden hlower
  obtain ⟨hit, hhit⟩ := Option.isSome_iff_exists.mp hsome
  obtain ⟨n, -, hn⟩ := List.exists_of_findSome?_eq_some hhit
  obtain ⟨c, hc, rfl⟩ := Option.map_eq_some_iff.mp hn
  exact ⟨n, c, hhit, hc⟩

/-- What is found is about as large as the magnitude. -/
lemma length_found (hrank : rank ≠ 0) (hlt : rank < 2047 * 0x10000000000000)
    (h : onGrid? tie rank (decimalPoint rank - (n + 1)) = some c) :
    c ≠ 0 ∧ n + 1 ≤ (Nat.toDigits 10 c).length ∧ (Nat.toDigits 10 c).length ≤ n + 2 := by
  rcases hgrid : gridRatio rank (decimalPoint rank - (n + 1)) with ⟨num, den⟩
  obtain ⟨hlower, hupper⟩ := gridRatio_bounds hrank hlt hgrid
  have hden : 0 < den := Nat.pos_of_ne_zero (by rintro rfl; simp at hupper)
  have hlow : 10 ^ n ≤ num / den := (Nat.le_div_iff_mul_le hden).mpr hlower
  have hhigh : num / den < 10 ^ (n + 1) := (Nat.div_lt_iff_lt_mul hden).mpr hupper
  have hpow : 0 < 10 ^ n := Nat.pow_pos (by decide)
  have hbounds : 10 ^ n ≤ c ∧ c ≤ 10 ^ (n + 1) := by
    rcases (onGrid?_spec hgrid h).2 with rfl | rfl <;> omega
  have hpos : 0 < c := by omega
  have hnext : 10 ^ (n + 1) < 10 ^ (n + 2) := Nat.pow_lt_pow_right (by decide) (by omega)
  refine ⟨hpos.ne', ?_, (Nat.length_toDigits_le_iff (by decide) (by omega)).mpr (by omega)⟩
  exact (Nat.pow_lt_pow_iff_right (by decide)).mp
    (Nat.lt_of_le_of_lt hbounds.1 (pow_length_toDigits hpos).2)

end Search

/-- **The fewest digits read back**: they are those of a whole number which, in its place, is read
as the number. -/
theorem exists_shortest (tie : Tie) (x : Binary64) :
    ∃ c e, shortest tie x.rank = ⟨Nat.toDigits 10 c, e + (Nat.toDigits 10 c).length - 1⟩ ∧
      ofDecimal? x.negative c e = some x ∧ (c = 0 → e = 0) := by
  obtain ⟨negative, rank, hlt⟩ := x
  by_cases hrank : rank = 0
  · subst hrank
    exact ⟨0, 0, rfl, rfl, fun _ => rfl⟩
  · obtain ⟨n, c, hhit, hfound⟩ := exists_firstOnGrid? tie hrank hlt
    obtain ⟨hne, hmin, hmax⟩ := length_found hrank hlt hfound
    obtain ⟨count, hpoint, hone, hcount, -⟩ := decimalPoint_spec hrank hlt
    have hheadroom : headroom = 324 := rfl
    rcases hgrid : gridRatio rank (decimalPoint rank - (n + 1)) with ⟨num, den⟩
    have hread := ofDecimal?_of_readsBack negative hlt hne (onGrid?_spec hgrid hfound).1
      (by omega) (by omega)
    -- the exponent stays closed: to compare two forms of it would be to evaluate them
    generalize decimalPoint rank - ((n : Int) + 1) = e at hhit hread
    obtain ⟨k, c, hten, rfl⟩ := Nat.exists_eq_pow_mul_and_not_dvd hne 10 (by decide)
    have hlast : c % 10 ≠ 0 := fun h => hten (Nat.dvd_of_mod_eq_zero h)
    have hpos : 0 < c := Nat.pos_of_ne_zero fun h => hlast (by rw [h])
    rw [Nat.mul_comm] at hhit hread
    refine ⟨c, e + k, ?_, (ofDecimal?_mul_pow negative c k e).symm.trans hread,
      fun hzero => absurd hzero hpos.ne'⟩
    have hexponent : e + ((Nat.toDigits 10 c).length + k : Nat) - 1 =
        e + k + (Nat.toDigits 10 c).length - 1 := by
      push_cast
      ring
    unfold shortest ofGridPoint
    rw [if_neg hrank, hhit, Option.getD_some]
    dsimp only
    rw [stripZeros_toDigits hlast, toDigits_mul_pow hpos, List.length_append,
      List.length_replicate, hexponent]

end Provisioning.Binary64
