import Mathlib.Tactic.Lemma
import Provisioning.Text.Casing

/-!
Lower case is final.

No code point is moved to one that has a lower-case form of its own (`lowerRuns_table`), so every
character of a text in lower case stays what it is, wherever it stands, and lower-casing a text
again changes nothing (`lower_lower`).
-/

namespace Provisioning.Text

/-! ### Runs -/

namespace Run

/-- Where a run moves its first member. -/
def image (r : Run) : Nat := (r.first + r.shift).toNat

/-- No member of the first run is moved to a member of the second: their ranges are apart, or of
one the even and of the other the odd code points are meant. -/
def misses (r q : Run) : Bool :=
  Nat.blt (r.image + (r.last - r.first)) q.first || Nat.blt q.last r.image ||
    (Nat.beq q.step 2 && (Nat.beq r.step 2 || Nat.beq r.first r.last) &&
      Nat.beq ((r.image + q.first) % 2) 1)

lemma contains_iff {r : Run} {n : Nat} :
    r.contains n ↔ r.first ≤ n ∧ n ≤ r.last ∧ (n - r.first) % r.step = 0 := by
  simp [contains, and_assoc]

lemma contains_eq_false {r q : Run} (h : r.misses q) {n m : Nat} (hpos : 0 ≤ r.first + r.shift)
    (hn : r.contains n) (hm : (m : Int) = n + r.shift) : q.contains m = false := by
  obtain ⟨hfirst, hlast, hstep⟩ := contains_iff.mp hn
  have himage : (r.image : Int) = r.first + r.shift := Int.toNat_of_nonneg hpos
  refine Bool.eq_false_iff.mpr fun hq => ?_
  obtain ⟨hfirst', hlast', hstep'⟩ := contains_iff.mp hq
  simp only [misses, Bool.or_eq_true, Bool.and_eq_true, Nat.blt_eq, Nat.beq_eq] at h
  rcases h with (h | h) | ⟨⟨hq2, hr2 | hsingle⟩, hodd⟩
  · omega
  · omega
  · rw [hr2] at hstep
    rw [hq2] at hstep'
    omega
  · rw [hq2] at hstep'
    omega

end Run

/-- What is in no run stays. -/
lemma moveBy_of_not_contains {rs : List Run} {n : Nat} (h : ∀ r ∈ rs, r.contains n = false) :
    moveBy rs n = n := by
  have hnone : rs.find? (·.contains n) = none := by simpa using h
  unfold moveBy
  rw [hnone]

/-- What is moved belongs to a run, which says how far. -/
lemma moveBy_cases {rs : List Run} (hrs : ∀ r ∈ rs, 0 ≤ r.first + r.shift) (n : Nat) :
    moveBy rs n = n ∨ ∃ r ∈ rs, r.contains n ∧ (moveBy rs n : Int) = n + r.shift := by
  unfold moveBy
  split
  next r hr =>
    have hcontains : r.contains n := by simpa using List.find?_some hr
    have hmem := List.mem_of_find?_eq_some hr
    have hpos := hrs r hmem
    have hfirst := (Run.contains_iff.mp hcontains).1
    exact Or.inr ⟨r, hmem, hcontains, by omega⟩
  next => exact Or.inl rfl

/-! ### Code points -/

/-- The dotted capital I has a lower-case form too, of two characters. -/
def capitalRuns : List Run := Run.single 0x130 :: lowerRuns

/-- What the table says: no code point is moved to a capital, and neither form of the small sigma
nor the dot above is one. -/
lemma lowerRuns_table :
    (⟨0x41, 0x5A, 1, 0x20⟩ : Run) ∈ lowerRuns ∧ (⟨0x3A3, 0x3AB, 1, 0x20⟩ : Run) ∈ lowerRuns ∧
      (∀ r ∈ lowerRuns, 0 ≤ r.first + r.shift) ∧
      (lowerRuns.all fun r => capitalRuns.all r.misses) ∧
      ∀ q ∈ capitalRuns, ∀ n ∈ [0x307, 0x3C2, 0x3C3], q.contains n = false := by
  unfold capitalRuns lowerRuns runs
  simp only [List.flatMap_cons, List.flatMap_nil]
  -- the kernel is slow to take a text apart, and quick to put one together
  repeat rw [String.toList_ofList]
  decide +kernel

lemma misses_of_mem {r q : Run} (hr : r ∈ lowerRuns) (hq : q ∈ capitalRuns) : r.misses q := by
  obtain ⟨-, -, -, hmisses, -⟩ := lowerRuns_table
  exact List.all_eq_true.mp (List.all_eq_true.mp hmisses r hr) q hq

lemma lowerPoint_cases (n : Nat) :
    lowerPoint n = n ∨ ∃ r ∈ lowerRuns, r.contains n ∧ (lowerPoint n : Int) = n + r.shift := by
  obtain ⟨hletters, -, hpos, -⟩ := lowerRuns_table
  unfold lowerPoint
  split
  next =>
    split
    next hletter =>
      refine Or.inr ⟨_, hletters, Run.contains_iff.mpr ⟨hletter.1, hletter.2, ?_⟩, rfl⟩
      exact Nat.mod_one _
    next => exact Or.inl rfl
  next => exact moveBy_cases hpos n

lemma lowerPoint_of_not_contains {n : Nat} (h : ∀ r ∈ lowerRuns, r.contains n = false) :
    lowerPoint n = n := by
  unfold lowerPoint
  split
  next =>
    split
    next hletter =>
      have hcontains : (⟨65, 90, 1, 32⟩ : Run).contains n :=
        Run.contains_iff.mpr ⟨hletter.1, hletter.2, Nat.mod_one _⟩
      rw [h _ lowerRuns_table.1] at hcontains
      cases hcontains
    next => rfl
  next => exact moveBy_of_not_contains h

/-! ### Characters -/

/-- A character that stays what it is, wherever it stands. -/
def Settled (c : Char) : Prop := c ≠ 'Σ' ∧ c ≠ 'İ' ∧ lowerPoint c.toNat = c.toNat

lemma Settled.lowerChar_eq {c : Char} (h : Settled c) (before after : List Char) :
    lowerChar before c after = [c] := by
  obtain ⟨hsigma, hdotted, hpoint⟩ := h
  unfold lowerChar
  rw [if_neg hsigma, if_neg hdotted, hpoint, Char.ofNat_toNat]

/-- A character whose code point is in no run of capitals. -/
lemma settled_of_not_contains {c : Char} (h : ∀ q ∈ capitalRuns, q.contains c.toNat = false) :
    Settled c := by
  obtain ⟨-, hsigma, -⟩ := lowerRuns_table
  refine ⟨?_, ?_, lowerPoint_of_not_contains fun r hr => h r (List.mem_cons_of_mem _ hr)⟩
  · rintro rfl
    exact absurd (h _ (List.mem_cons_of_mem _ hsigma)) (by decide)
  · rintro rfl
    exact absurd (h _ List.mem_cons_self) (by decide)

lemma settled_marks : ∀ d ∈ ['ς', 'σ', 'i', '\u0307', '\x00'], Settled d := by
  obtain ⟨-, -, -, -, hmarks⟩ := lowerRuns_table
  have hmark : ∀ d : Char, d.toNat ∈ [0x307, 0x3C2, 0x3C3] → Settled d := fun d hd =>
    settled_of_not_contains fun q hq => hmarks q hq d.toNat hd
  have hi : Settled 'i' := by
    unfold Settled
    decide
  have hnull : Settled '\x00' := by
    unfold Settled
    decide
  simp only [List.forall_mem_cons]
  exact ⟨hmark _ (by decide), hmark _ (by decide), hi, hmark _ (by decide), hnull,
    List.forall_mem_nil _⟩

/-- What is no character counts as the null character. -/
lemma toNat_ofNat (n : Nat) : Char.ofNat n = '\x00' ∨ (Char.ofNat n).toNat = n := by
  by_cases h : n.isValidChar
  · have hchar : Char.ofNat n = Char.ofNatAux n h := dif_pos h
    exact Or.inr (hchar ▸ rfl)
  · exact Or.inl (dif_neg h)

lemma settled_ofNat_lowerPoint {c : Char} (hsigma : c ≠ 'Σ') (hdotted : c ≠ 'İ') :
    Settled (Char.ofNat (lowerPoint c.toNat)) := by
  rcases lowerPoint_cases c.toNat with hstays | ⟨r, hr, hcontains, hmoved⟩
  · rw [hstays, Char.ofNat_toNat]
    exact ⟨hsigma, hdotted, hstays⟩
  · rcases toNat_ofNat (lowerPoint c.toNat) with hnull | hpoint
    · exact hnull ▸ settled_marks _ (by decide)
    · obtain ⟨-, -, hpos, -⟩ := lowerRuns_table
      refine settled_of_not_contains fun q hq => ?_
      rw [hpoint]
      exact Run.contains_eq_false (misses_of_mem hr hq) (hpos r hr) hcontains hmoved

lemma settled_lowerChar (before after : List Char) (c : Char) :
    ∀ d ∈ lowerChar before c after, Settled d := by
  unfold lowerChar
  split
  next =>
    split
    all_goals
      rintro d hd
      obtain rfl := List.mem_singleton.mp hd
      exact settled_marks _ (by decide)
  next hsigma =>
    split
    next =>
      simp only [List.forall_mem_cons]
      exact ⟨settled_marks _ (by decide), settled_marks _ (by decide), List.forall_mem_nil _⟩
    next hdotted =>
      intro d hd
      obtain rfl := List.mem_singleton.mp hd
      exact settled_ofNat_lowerPoint hsigma hdotted

/-! ### Texts -/

lemma settled_lowerAfter (before cs : List Char) : ∀ d ∈ lowerAfter before cs, Settled d := by
  induction cs generalizing before with
  | nil => exact fun d hd => absurd hd List.not_mem_nil
  | cons c rest ih =>
    intro d hd
    rcases List.mem_append.mp hd with hd | hd
    · exact settled_lowerChar before rest c d hd
    · exact ih (c :: before) d hd

lemma lowerAfter_of_settled {cs : List Char} (h : ∀ c ∈ cs, Settled c) (before : List Char) :
    lowerAfter before cs = cs := by
  induction cs generalizing before with
  | nil => rfl
  | cons c rest ih =>
    obtain ⟨hc, hrest⟩ := List.forall_mem_cons.mp h
    rw [lowerAfter, hc.lowerChar_eq, ih hrest, List.singleton_append]

/-- **Lower case is final**: lower-casing a text again changes nothing. -/
theorem lower_lower (s : String) : lower (lower s) = lower s := by
  unfold lower
  rw [String.toList_ofList, lowerAfter_of_settled (settled_lowerAfter [] s.toList)]

end Provisioning.Text
