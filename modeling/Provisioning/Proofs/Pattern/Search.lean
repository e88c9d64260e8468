import Mathlib.Tactic.Common
import Provisioning.Pattern.Search

/-!
The search finds what there is to be found.

On one text a pattern leads from places to places, and `Spans` says to which. The moves of a pattern
take a set of places to all places to which it leads from one of them
(`Pattern.testBit_run_movesIn`). For repetitions this needs an argument: the search makes no more of
them than there are places, and that is enough because among so many some match the empty text,
which can be left out or made again (`Pattern.Repeats.stationary`).
-/

namespace Provisioning.Pattern

variable {text : List Char} {p q : Pattern} {i j k m n s : Nat}

/-! ### Places -/

lemma testBit_bitsWhere {α : Type} {holds : α → Bool} {as : List α} :
    (bitsWhere holds as).testBit k ↔ ∃ a, as[k]? = some a ∧ holds a := by
  induction as generalizing k with
  | nil => simp [bitsWhere]
  | cons a rest ih =>
    have hcons : bitsWhere holds (a :: rest) =
        2 * bitsWhere holds rest + if holds a then 1 else 0 := rfl
    rw [hcons]
    cases k with
    | zero => cases h : holds a <;> simp [Nat.testBit_zero, h]
    | succ k =>
      have hhalf : (2 * bitsWhere holds rest + if holds a then 1 else 0) / 2 =
          bitsWhere holds rest := by
        split <;> omega
      rw [Nat.testBit_succ, hhalf, ih, List.getElem?_cons_succ]

/-- The places of a text, with the characters around them. -/
lemma getElem?_places {b a : Option Char} :
    (places text)[k]? = some (b, a) ↔ k ≤ text.length ∧ b = before text k ∧ a = text[k]? := by
  have hafter : (text.map some ++ [none])[k]? = some a ↔ k ≤ text.length ∧ a = text[k]? := by
    rcases Nat.lt_trichotomy k text.length with hlt | heq | hgt
    · rw [List.getElem?_append_left (by simpa using hlt)]
      simp [hlt, Nat.le_of_lt hlt, eq_comm]
    · simp [heq, eq_comm]
    · rw [List.getElem?_eq_none (by simpa using Nat.succ_le_of_lt hgt)]
      simp [Nat.not_le_of_lt hgt]
  have hbefore : k ≤ text.length →
      ((none :: text.map some)[k]? = some b ↔ b = before text k) := by
    intro hk
    cases k with
    | zero => simp [before, eq_comm]
    | succ k =>
      have hlt : k < text.length := hk
      simp [before, hlt, eq_comm]
  unfold places
  rw [List.getElem?_zip_eq_some, hafter]
  refine ⟨fun ⟨hb, hk, ha⟩ => ⟨hk, (hbefore hk).mp hb, ha⟩, fun ⟨hk, hb, ha⟩ =>
    ⟨(hbefore hk).mpr hb, hk, ha⟩⟩

/-! ### What is matched -/

mutual

/-- What is matched lies in the text. -/
lemma Spans.bounds : ∀ {p : Pattern} {i j : Nat}, Spans text p i j → i ≤ j ∧ j ≤ text.length
  | _, _, _, .empty h => ⟨Nat.le_refl _, h⟩
  | _, _, _, .char h _ => ⟨Nat.le_succ _, (List.getElem?_eq_some_iff.mp h).1⟩
  | _, _, _, .anchor h _ => ⟨Nat.le_refl _, h⟩
  | _, _, _, .seq h₁ h₂ => ⟨Nat.le_trans h₁.bounds.1 h₂.bounds.1, h₂.bounds.2⟩
  | _, _, _, .altLeft h => h.bounds
  | _, _, _, .altRight h => h.bounds
  | _, _, _, .rep _ _ h => h.bounds

lemma Repeats.bounds :
    ∀ {p : Pattern} {n i j : Nat}, Repeats text p n i j → i ≤ j ∧ j ≤ text.length
  | _, _, _, _, .none h => ⟨Nat.le_refl _, h⟩
  | _, _, _, _, .more h₁ h₂ => ⟨Nat.le_trans h₁.bounds.1 h₂.bounds.1, h₂.bounds.2⟩

end

lemma repeats_zero_iff : Repeats text p 0 i j ↔ i = j ∧ i ≤ text.length :=
  ⟨fun | .none h => ⟨rfl, h⟩, fun ⟨heq, h⟩ => heq ▸ .none h⟩

lemma repeats_succ_iff :
    Repeats text p (n + 1) i k ↔ ∃ j, Repeats text p n i j ∧ Spans text p j k :=
  ⟨fun | .more h₁ h₂ => ⟨_, h₁, h₂⟩, fun ⟨_, h₁, h₂⟩ => .more h₁ h₂⟩

/-- So many repetitions and then so many more. -/
lemma repeats_add_iff :
    Repeats text p (m + n) i k ↔ ∃ j, Repeats text p m i j ∧ Repeats text p n j k := by
  induction n generalizing k with
  | zero =>
    simp only [Nat.add_zero, repeats_zero_iff]
    exact ⟨fun h => ⟨k, h, rfl, h.bounds.2⟩, fun ⟨j, h, hjk, _⟩ => hjk ▸ h⟩
  | succ n ih =>
    rw [← Nat.add_assoc, repeats_succ_iff]
    simp only [ih, repeats_succ_iff]
    exact ⟨fun ⟨l, ⟨j, h₁, h₂⟩, h₃⟩ => ⟨j, h₁, l, h₂, h₃⟩,
      fun ⟨j, h₁, l, h₂, h₃⟩ => ⟨l, ⟨j, h₁, h₂⟩, h₃⟩⟩

lemma repeats_one_iff : Repeats text p 1 i j ↔ Spans text p i j := by
  rw [repeats_succ_iff]
  simp only [repeats_zero_iff]
  refine ⟨fun ⟨l, ⟨hil, _⟩, h⟩ => hil ▸ h, fun h => ⟨i, ⟨rfl, ?_⟩, h⟩⟩
  exact Nat.le_trans h.bounds.1 h.bounds.2

/-- Among more repetitions than characters some match the empty text. -/
lemma Repeats.stationary (h : Repeats text p n i j) (hn : j - i < n) :
    Repeats text p (n - 1) i j ∧ Repeats text p (n + 1) i j := by
  induction n generalizing j with
  | zero => omega
  | succ n ih =>
    obtain ⟨l, hl, hlj⟩ := repeats_succ_iff.mp h
    rcases Nat.eq_or_lt_of_le hlj.bounds.1 with rfl | hlt
    · exact ⟨hl, .more h hlj⟩
    · obtain ⟨hless, hmore⟩ := ih hl (by have := hl.bounds.1; omega)
      have hpos : n - 1 + 1 = n := by have := hl.bounds.1; omega
      exact ⟨hpos ▸ .more hless hlj, .more hmore hlj⟩

/-- More repetitions than there are places change nothing. -/
lemma repeats_iff_of_length_lt (hm : text.length < m) (hn : text.length < n) :
    Repeats text p m i j ↔ Repeats text p n i j := by
  have hstep : ∀ n, text.length < n → (Repeats text p n i j ↔ Repeats text p (n + 1) i j) := by
    intro n hn
    exact ⟨fun h => (h.stationary (by have := h.bounds.2; omega)).2,
      fun h => (h.stationary (by have := h.bounds.2; omega)).1⟩
  have hall : ∀ d, Repeats text p (text.length + 1) i j ↔
      Repeats text p (text.length + 1 + d) i j := by
    intro d
    induction d with
    | zero => rfl
    | succ d ih => exact ih.trans (hstep _ (by omega))
  obtain ⟨d, rfl⟩ := Nat.exists_eq_add_of_le hm
  obtain ⟨e, rfl⟩ := Nat.exists_eq_add_of_le hn
  exact (hall d).symm.trans (hall e)

/-- The bounds of a repetition can be cut down to the number of places. -/
lemma spans_rep_iff {least bound : Nat} {more : Option Nat} (hbound : bound = text.length + 1) :
    Spans text (.rep p least more) i j ↔
      ∃ m ≤ min (more.getD bound) bound, Repeats text p (min least bound + m) i j := by
  refine ⟨?_, ?_⟩
  · rintro (_ | _ | _ | _ | _ | _ | @⟨_, _, n, _, _, _, hleast, hmore, h⟩)
    refine ⟨min (n - least) (min (more.getD bound) bound), Nat.min_le_right _ _, ?_⟩
    by_cases hsame : min least bound + min (n - least) (min (more.getD bound) bound) = n
    · rwa [hsame]
    · refine (repeats_iff_of_length_lt ?_ ?_).mp h <;> cases more <;>
        simp at hmore hsame ⊢ <;> omega
  · rintro ⟨m, hm, h⟩
    by_cases hleast : least ≤ bound
    · rw [Nat.min_eq_left hleast] at h
      refine .rep (Nat.le_add_right _ _) (fun x hx => ?_) h
      obtain rfl : more = some x := hx
      exact Nat.add_le_add_left (Nat.le_trans hm (Nat.min_le_left _ _)) _
    · refine .rep (Nat.le_refl least) (fun x _ => Nat.le_add_right _ _)
        ((repeats_iff_of_length_lt ?_ ?_).mp h) <;> omega

/-! ### Where moves lead -/

/-- Every place of a set is one of the text. -/
def Within (text : List Char) (s : Nat) : Prop := ∀ i, s.testBit i → i ≤ text.length

/-- A map of sets of places takes a set to all places to which a pattern leads from it. -/
def Follows (text : List Char) (p : Pattern) (f : Nat → Nat) : Prop :=
  ∀ s, Within text s → ∀ j, (f s).testBit j ↔ ∃ i, s.testBit i ∧ Spans text p i j

namespace Follows

variable {f : Nat → Nat} (hf : Follows text p f)

include hf

lemma within (hs : Within text s) : Within text (f s) := by
  intro j hj
  obtain ⟨i, -, h⟩ := (hf s hs j).mp hj
  exact h.bounds.2

lemma testBit_times (hs : Within text s) :
    (times f n s).testBit j ↔ ∃ i, s.testBit i ∧ Repeats text p n i j := by
  induction n generalizing s with
  | zero =>
    simp only [times, repeats_zero_iff]
    exact ⟨fun h => ⟨j, h, rfl, hs j h⟩, fun ⟨i, h, hij, _⟩ => hij ▸ h⟩
  | succ n ih =>
    simp only [times, ih (hf.within hs), hf s hs, Nat.add_comm n 1, repeats_add_iff,
      repeats_one_iff]
    exact ⟨fun ⟨k, ⟨i, hi, hik⟩, hkj⟩ => ⟨i, hi, k, hik, hkj⟩,
      fun ⟨i, hi, k, hik, hkj⟩ => ⟨k, ⟨i, hi, hik⟩, hkj⟩⟩

lemma within_times (hs : Within text s) : Within text (times f n s) := by
  intro j hj
  obtain ⟨i, -, h⟩ := (hf.testBit_times hs).mp hj
  exact h.bounds.2

/-- Where a step adds nothing, no number of steps does. -/
lemma testBit_of_closed (hs : Within text s) (hclosed : s ||| f s = s) (hi : s.testBit i)
    (h : Repeats text p n i j) : s.testBit j := by
  induction n generalizing j with
  | zero =>
    obtain ⟨rfl, -⟩ := repeats_zero_iff.mp h
    exact hi
  | succ n ih =>
    obtain ⟨k, hk, hkj⟩ := repeats_succ_iff.mp h
    have hj : (f s).testBit j := (hf s hs j).mpr ⟨k, ih hk, hkj⟩
    rw [← hclosed, Nat.testBit_or, hj, Bool.or_true]

lemma testBit_reach (hs : Within text s) :
    (reach f n s).testBit j ↔ ∃ m ≤ n, ∃ i, s.testBit i ∧ Repeats text p m i j := by
  induction n generalizing s with
  | zero =>
    refine ⟨fun h => ⟨0, Nat.le_refl _, j, h, .none (hs j h)⟩, ?_⟩
    rintro ⟨m, hm, i, hi, h⟩
    obtain rfl := Nat.le_zero.mp hm
    obtain ⟨rfl, -⟩ := repeats_zero_iff.mp h
    exact hi
  | succ n ih =>
    unfold reach
    dsimp only
    split
    next hclosed =>
      refine ⟨fun h => ⟨0, Nat.zero_le _, j, h, .none (hs j h)⟩, ?_⟩
      rintro ⟨m, -, i, hi, h⟩
      exact hf.testBit_of_closed hs hclosed hi h
    next =>
      have hnext : Within text (s ||| f s) := fun i hi => by
        rw [Nat.testBit_or, Bool.or_eq_true] at hi
        exact hi.elim (hs i) (hf.within hs i)
      rw [ih hnext]
      refine ⟨?_, ?_⟩
      · rintro ⟨m, hm, i, hi, h⟩
        rw [Nat.testBit_or, Bool.or_eq_true] at hi
        rcases hi with hi | hi
        · exact ⟨m, Nat.le_succ_of_le hm, i, hi, h⟩
        · obtain ⟨k, hk, hki⟩ := (hf s hs i).mp hi
          refine ⟨1 + m, by omega, k, hk, repeats_add_iff.mpr ⟨i, repeats_one_iff.mpr hki, h⟩⟩
      · rintro ⟨m, hm, i, hi, h⟩
        cases m with
        | zero => exact ⟨0, Nat.zero_le _, i, by simp [hi], h⟩
        | succ m =>
          rw [Nat.add_comm, repeats_add_iff] at h
          obtain ⟨k, hik, hkj⟩ := h
          have hk : (f s).testBit k := (hf s hs k).mpr ⟨i, hi, repeats_one_iff.mp hik⟩
          exact ⟨m, Nat.le_of_succ_le_succ hm, k, by simp [hk], hkj⟩

end Follows

/-- Moves lead to where the pattern leads. -/
lemma follows_movesIn (p : Pattern) : Follows text p (movesIn text p).run := by
  induction p with
  | empty =>
    intro s hs j
    refine ⟨fun h => ⟨j, h, .empty (hs j h)⟩, ?_⟩
    rintro ⟨i, hi, ⟨⟩⟩
    exact hi
  | char set =>
    intro s hs j
    simp only [movesIn, Moves.run]
    cases j with
    | zero =>
      refine ⟨fun h => by simp [Nat.testBit_zero] at h, ?_⟩
      rintro ⟨i, -, ⟨⟩⟩
    | succ i =>
      have hhalf : 2 * (s &&& bitsWhere (fun c => set.contains c.toNat) text) / 2 =
          s &&& bitsWhere (fun c => set.contains c.toNat) text := by omega
      rw [Nat.testBit_succ, hhalf, Nat.testBit_and, Bool.and_eq_true, testBit_bitsWhere]
      refine ⟨fun ⟨hi, c, hc, hset⟩ => ⟨i, hi, .char hc hset⟩, ?_⟩
      rintro ⟨i', hi, _ | ⟨hc, hset⟩⟩
      exact ⟨hi, _, hc, hset⟩
  | anchor a =>
    intro s hs j
    simp only [movesIn, Moves.run]
    rw [Nat.testBit_and, Bool.and_eq_true, testBit_bitsWhere]
    refine ⟨?_, ?_⟩
    · rintro ⟨hj, ⟨b, c⟩, hplace, hholds⟩
      obtain ⟨hle, rfl, rfl⟩ := getElem?_places.mp hplace
      exact ⟨j, hj, .anchor hle hholds⟩
    · rintro ⟨i, hi, _ | _ | ⟨hle, hholds⟩⟩
      exact ⟨hi, _, getElem?_places.mpr ⟨hle, rfl, rfl⟩, hholds⟩
  | seq p q hp hq =>
    intro s hs j
    simp only [movesIn, Moves.run]
    rw [hq _ (hp.within hs)]
    simp only [hp s hs]
    refine ⟨fun ⟨k, ⟨i, hi, hik⟩, hkj⟩ => ⟨i, hi, .seq hik hkj⟩, ?_⟩
    rintro ⟨i, hi, _ | _ | _ | ⟨hik, hkj⟩⟩
    exact ⟨_, ⟨i, hi, hik⟩, hkj⟩
  | alt p q hp hq =>
    intro s hs j
    simp only [movesIn, Moves.run]
    rw [Nat.testBit_or, Bool.or_eq_true, hp s hs, hq s hs]
    refine ⟨?_, ?_⟩
    · rintro (⟨i, hi, h⟩ | ⟨i, hi, h⟩)
      · exact ⟨i, hi, .altLeft h⟩
      · exact ⟨i, hi, .altRight h⟩
    · rintro ⟨i, hi, _ | _ | _ | _ | h | h⟩
      · exact Or.inl ⟨i, hi, h⟩
      · exact Or.inr ⟨i, hi, h⟩
  | rep p least more hp =>
    intro s hs j
    simp only [movesIn, Moves.run, hp.testBit_reach (hp.within_times hs), hp.testBit_times hs,
      spans_rep_iff (rfl : text.length + 1 = text.length + 1), repeats_add_iff]
    refine ⟨fun ⟨m, hm, k, ⟨i, hi, hik⟩, hkj⟩ => ⟨i, hi, m, hm, k, hik, hkj⟩,
      fun ⟨i, hi, m, hm, k, hik, hkj⟩ => ⟨m, hm, k, ⟨i, hi, hik⟩, hkj⟩⟩

/-- The search finds something exactly if some stretch of the text is matched. -/
theorem found_iff {text : List Char} : p.found text ↔ p.Finds text := by
  have hplaces : ∀ i, ((1 <<< (text.length + 1)) - 1).testBit i ↔ i ≤ text.length := fun i => by
    rw [Nat.one_shiftLeft, Nat.testBit_two_pow_sub_one, decide_eq_true_iff, Nat.lt_succ_iff]
  have hrun := follows_movesIn p _ fun i => (hplaces i).mp
  unfold found Finds
  rw [bne_iff_ne]
  refine ⟨fun hne => ?_, fun ⟨i, j, h⟩ hzero => ?_⟩
  · obtain ⟨j, hj⟩ := Nat.exists_testBit_of_ne_zero hne
    obtain ⟨i, -, h⟩ := (hrun j).mp hj
    exact ⟨i, j, h⟩
  · have hj := (hrun j).mpr ⟨i, (hplaces i).mpr (Nat.le_trans h.bounds.1 h.bounds.2), h⟩
    rw [hzero, Nat.zero_testBit] at hj
    cases hj

end Provisioning.Pattern
