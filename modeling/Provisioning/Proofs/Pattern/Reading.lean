import Mathlib.Data.List.TakeWhile
import Provisioning.Pattern.Parser

/-!
Reading a pattern that is closed.

Between its anchors a pattern is followed by a closing parenthesis and a dollar sign. What a reader
finds at some place of the pattern it finds there as well when these two follow, and what it leaves
is then followed by them (`Pattern.Steady`). In extended mode there is one exception: a comment at
the end of the pattern runs on and swallows what should close it, so that nothing is left either way
(`Pattern.Closed`).
-/

namespace Provisioning.Pattern

/-- What closes a pattern between its anchors. -/
def closing : List Char := [')', '$']

/-- The second text is the first one and its closing; or both are at an end, because a comment has
swallowed the closing. -/
def Closed (cs cs' : List Char) : Prop := cs' = cs ++ closing ∨ cs = [] ∧ cs' = []

/-- What is read of a text is read of the closed one. -/
def Steady {α : Type} (read : List Char → Option (α × List Char)) : Prop :=
  ∀ ⦃cs cs' a rest⦄, Closed cs cs' → read cs = some (a, rest) →
    ∃ rest', read cs' = some (a, rest') ∧ Closed rest rest'

namespace Closed

variable {cs cs' rest rest' : List Char} {c : Char}

lemma append (cs : List Char) : Closed cs (cs ++ closing) := Or.inl rfl

lemma cons_left (h : Closed (c :: rest) cs') : ∃ rest', cs' = c :: rest' ∧ Closed rest rest' := by
  rcases h with rfl | ⟨h, -⟩
  · exact ⟨_, rfl, append rest⟩
  · cases h

lemma cons_right (hc : c ≠ ')') (h : Closed cs (c :: rest')) :
    ∃ rest, cs = c :: rest ∧ Closed rest rest' := by
  rcases h with h | ⟨-, h⟩
  · cases cs with
    | nil => exact absurd (List.cons.inj h).1 hc
    | cons d rest =>
      obtain ⟨rfl, rfl⟩ := List.cons.inj h
      exact ⟨rest, rfl, append rest⟩
  · cases h

/-- A sign that does not stand first does not stand first in the closed text. -/
lemma ne_cons (hc : c ≠ ')') (h : Closed cs cs') (hne : ∀ rest, cs ≠ c :: rest)
    (rest' : List Char) : cs' ≠ c :: rest' := by
  rintro rfl
  obtain ⟨rest, rfl, -⟩ := h.cons_right hc
  exact hne rest rfl

lemma cons_left₂ {d : Char} (h : Closed (c :: d :: rest) cs') :
    ∃ rest', cs' = c :: d :: rest' ∧ Closed rest rest' := by
  obtain ⟨_, rfl, hd⟩ := h.cons_left
  obtain ⟨rest', rfl, hrest⟩ := hd.cons_left
  exact ⟨rest', rfl, hrest⟩

lemma cons_right₂ {d : Char} (hc : c ≠ ')') (hd : d ≠ ')') (h : Closed cs (c :: d :: rest')) :
    ∃ rest, cs = c :: d :: rest ∧ Closed rest rest' := by
  obtain ⟨_, rfl, hmore⟩ := h.cons_right hc
  obtain ⟨rest, rfl, hrest⟩ := hmore.cons_right hd
  exact ⟨rest, rfl, hrest⟩

lemma cons_left₃ {d e : Char} (h : Closed (c :: d :: e :: rest) cs') :
    ∃ rest', cs' = c :: d :: e :: rest' ∧ Closed rest rest' := by
  obtain ⟨_, rfl, he⟩ := h.cons_left₂
  obtain ⟨rest', rfl, hrest⟩ := he.cons_left
  exact ⟨rest', rfl, hrest⟩

lemma ne_cons₂ {d : Char} (hc : c ≠ ')') (hd : d ≠ ')') (h : Closed cs cs')
    (hne : ∀ rest, cs ≠ c :: d :: rest) (rest' : List Char) : cs' ≠ c :: d :: rest' := by
  rintro rfl
  obtain ⟨rest, rfl, -⟩ := h.cons_right₂ hc hd
  exact hne rest rfl

lemma eq_nil (h : Closed cs []) : cs = [] := by
  rcases h with h | ⟨rfl, -⟩
  · cases cs <;> cases h
  · rfl

lemma length_le (h : Closed cs cs') : cs.length ≤ cs'.length := by
  rcases h with rfl | ⟨rfl, rfl⟩
  · exact List.length_append ▸ Nat.le_add_right _ _
  · exact Nat.le_refl _

lemma head?_eq_some_iff (hc : c ≠ ')') (h : Closed cs cs') :
    cs'.head? = some c ↔ cs.head? = some c := by
  rw [List.head?_eq_some_iff, List.head?_eq_some_iff]
  refine ⟨?_, ?_⟩
  · rintro ⟨rest', rfl⟩
    obtain ⟨rest, rfl, -⟩ := h.cons_right hc
    exact ⟨rest, rfl⟩
  · rintro ⟨rest, rfl⟩
    obtain ⟨rest', rfl, -⟩ := h.cons_left
    exact ⟨rest', rfl⟩

end Closed

/-- A reader that leaves a pattern to be closed is steady if it reads nothing of nothing. -/
lemma Steady.of_append {α : Type} {read : List Char → Option (α × List Char)}
    (hnil : read [] = none)
    (h : ∀ cs a rest, read cs = some (a, rest) →
      read (cs ++ closing) = some (a, rest ++ closing)) : Steady read := by
  rintro cs cs' a rest (rfl | ⟨rfl, rfl⟩) hread
  · exact ⟨_, h _ _ _ hread, .append rest⟩
  · rw [hnil] at hread
    cases hread

namespace Steady

variable {α β : Type} {read : List Char → Option (α × List Char)} {cs cs' rest : List Char} {a : α}

lemma pure (a : α) : Steady fun cs => some (a, cs) := by
  intro cs cs' a' rest hc h
  obtain ⟨rfl, rfl⟩ := Prod.mk.inj (Option.some.inj h)
  exact ⟨cs', rfl, hc⟩

/-- What is read first of a text, and then made something of, is read first of the closed one. -/
lemma of_bind (hread : Steady read) (hc : Closed cs cs') {next : α × List Char → Option β} {b : β}
    (h : (read cs).bind next = some b) : ∃ a rest rest', read cs = some (a, rest) ∧
      read cs' = some (a, rest') ∧ Closed rest rest' ∧ next (a, rest) = some b := by
  obtain ⟨⟨a, rest⟩, hfirst, hnext⟩ := Option.bind_eq_some_iff.mp h
  obtain ⟨rest', hfirst', hrest⟩ := hread hc hfirst
  exact ⟨a, rest, rest', hfirst, hfirst', hrest, hnext⟩

end Steady

/-! ### Gaps -/

lemma closed_skipGaps (inComment : Bool) (cs : List Char) :
    Closed (Flags.skipGaps inComment cs) (Flags.skipGaps inComment (cs ++ closing)) := by
  induction cs generalizing inComment with
  | nil =>
    cases inComment with
    | true => exact Or.inr ⟨rfl, by decide⟩
    | false => exact Or.inl (by decide)
  | cons c rest ih =>
    rw [List.cons_append, Flags.skipGaps, Flags.skipGaps]
    split
    next => exact ih _
    next =>
      split
      next => exact ih _
      next =>
        split
        next => exact ih _
        next => exact .append (c :: rest)

lemma Closed.skip {cs cs' : List Char} (h : Closed cs cs') (f : Flags) :
    Closed (f.skip cs) (f.skip cs') := by
  unfold Flags.skip
  split
  next =>
    rcases h with rfl | ⟨rfl, rfl⟩
    · exact closed_skipGaps false cs
    · exact Or.inr ⟨rfl, rfl⟩
  next => exact h

lemma Closed.skipBlanks {cs cs' : List Char} (h : Closed cs cs') :
    Closed (Text.skipBlanks cs) (Text.skipBlanks cs') := by
  rcases h with rfl | ⟨rfl, rfl⟩
  · unfold Text.skipBlanks
    rw [List.dropWhile_append]
    split
    next hnil =>
      rw [List.isEmpty_iff.mp hnil]
      exact Or.inl rfl
    next => exact .append _
  · exact Or.inr ⟨rfl, rfl⟩

variable {f : Flags} {cs cs' rest rest' : List Char}

lemma braced?_append {inComment : Bool} {inside more : List Char}
    (h : f.braced? inComment cs = some (inside, rest)) :
    f.braced? inComment (cs ++ more) = some (inside, rest ++ more) := by
  induction cs generalizing inComment inside with
  | nil => cases h
  | cons c cs ih =>
    rw [List.cons_append]
    unfold Flags.braced? at h ⊢
    split at h
    next hc => rw [if_pos hc]; exact ih h
    next hc =>
      rw [if_neg hc]
      split at h
      next hc => rw [if_pos hc]; exact ih h
      next hc =>
        rw [if_neg hc]
        split at h
        next hc => rw [if_pos hc]; exact ih h
        next hc =>
          rw [if_neg hc]
          split at h
          next hc =>
            rw [if_pos hc]
            obtain ⟨rfl, rfl⟩ := Prod.mk.inj (Option.some.inj h)
            rfl
          next hc =>
            rw [if_neg hc]
            obtain ⟨⟨inside', rest'⟩, hread, heq⟩ := Option.map_eq_some_iff.mp h
            obtain ⟨rfl, rfl⟩ := Prod.mk.inj heq
            rw [ih hread]
            rfl

lemma Flags.length_skip_le (f : Flags) {cs : List Char} : (f.skip cs).length ≤ cs.length := by
  have hgaps : ∀ (inComment : Bool) (cs : List Char),
      (skipGaps inComment cs).length ≤ cs.length := by
    intro inComment cs
    fun_induction skipGaps inComment cs with
    | case1 => exact Nat.le_refl _
    | case2 _ _ ih => exact Nat.le_succ_of_le ih
    | case3 _ _ _ ih => exact Nat.le_succ_of_le ih
    | case4 _ _ _ _ _ _ ih => exact Nat.le_succ_of_le ih
    | case5 => exact Nat.le_refl _
  unfold skip
  split
  next => exact hgaps false cs
  next => exact Nat.le_refl _

lemma steady_braced? : Steady (f.braced? false) := .of_append rfl fun _ _ _ => braced?_append

/-! ### Escapes -/

lemma steady_hexDigits? (width value : Nat) : Steady (hexDigits? f width value) := by
  intro cs cs' n rest hc h
  induction width generalizing value cs cs' with
  | zero => exact Steady.pure value hc h
  | succ width ih =>
    cases cs with
    | nil => cases h
    | cons c cs =>
      obtain ⟨cs', rfl, hs⟩ := hc.cons_left
      obtain ⟨d, hd, h⟩ := Option.bind_eq_some_iff.mp h
      obtain ⟨rest', hread, hrest⟩ := ih _ (hs.skip f) h
      exact ⟨rest', by rw [hexDigits?, hd, Option.bind_some, hread], hrest⟩

lemma steady_hexEscape? (width : Nat) : Steady (hexEscape? f width) := by
  intro cs cs' a rest hc h
  have hs := hc.skip f
  unfold hexEscape? at h ⊢
  split at h
  next ds hds =>
    obtain ⟨ds', hds', hs⟩ := (hds ▸ hs).cons_left
    obtain ⟨inside, rest₁, rest₁', -, hinside, hs, h⟩ := steady_braced?.of_bind hs h
    dsimp only at h
    split at h
    next hhex =>
      obtain ⟨c, hchar, h⟩ := Option.bind_eq_some_iff.mp h
      obtain ⟨rfl, rfl⟩ := Prod.mk.inj (Option.some.inj h)
      refine ⟨f.skip rest₁', ?_, hs.skip f⟩
      simp only [hds', hinside, hchar, Option.bind_eq_bind, Option.bind_some]
      exact if_pos hhex
    next => cases h
  next hds =>
    obtain ⟨n, rest₁, rest₁', -, hn, hrest, h⟩ := (steady_hexDigits? width 0).of_bind hs h
    obtain ⟨c, hchar, h⟩ := Option.bind_eq_some_iff.mp h
    obtain ⟨rfl, rfl⟩ := Prod.mk.inj (Option.some.inj h)
    split
    next ds' hds' => exact absurd hds' (hs.ne_cons (by decide) hds ds')
    next => exact ⟨rest₁', by simp [hn, hchar], hrest⟩

lemma steady_propertyEscape? (negated : Bool) : Steady (propertyEscape? f negated) := by
  intro cs cs' a rest hc h
  have hs := hc.skip f
  unfold propertyEscape? at h ⊢
  split at h
  next => cases h
  next hunicode =>
    rw [if_neg hunicode]
    split at h
    next => cases h
    next => cases h
    next ds hds =>
      obtain ⟨ds', hds', hs⟩ := (hds ▸ hs).cons_left
      obtain ⟨name, rest₁, rest₁', -, hname, hs, h⟩ := steady_braced?.of_bind hs h
      obtain ⟨p, hp, h⟩ := Option.bind_eq_some_iff.mp h
      obtain ⟨rfl, rfl⟩ := Prod.mk.inj (Option.some.inj h)
      exact ⟨rest₁', by simp [hds', hname, hp], hs⟩
    next c ds hbackslash hbrace hds =>
      obtain ⟨ds', hds', hs⟩ := (hds ▸ hs).cons_left
      obtain ⟨p, hp, h⟩ := Option.bind_eq_some_iff.mp h
      obtain ⟨rfl, rfl⟩ := Prod.mk.inj (Option.some.inj h)
      refine ⟨f.skip ds', ?_, hs.skip f⟩
      rw [hds']
      split
      next heq => cases heq
      next heq => exact absurd (List.cons.inj heq).1 hbackslash
      next heq => exact absurd (List.cons.inj heq).1 hbrace
      next heq =>
        obtain ⟨rfl, rfl⟩ := List.cons.inj heq
        simp [hp]

lemma steady_boundaryEscape? : Steady (boundaryEscape? f) := by
  intro cs cs' a rest hc h
  unfold boundaryEscape? at h ⊢
  split at h
  next ds =>
    obtain ⟨ds', rfl, hs⟩ := hc.cons_left
    have hskip := hs.skip f
    split at h
    next => cases h
    next c more hmore =>
      obtain ⟨more', hmore', -⟩ := (hmore ▸ hskip).cons_left
      simp only [hmore']
      split at h
      next hname =>
        rw [if_pos hname]
        obtain ⟨name, rest₁, rest₁', -, hread, hs, h⟩ := steady_braced?.of_bind hs h
        obtain ⟨b, hb, h⟩ := Option.bind_eq_some_iff.mp h
        obtain ⟨rfl, rfl⟩ := Prod.mk.inj (Option.some.inj h)
        exact ⟨rest₁', by simp [hread, hb], hs⟩
      next hname =>
        rw [if_neg hname]
        exact Steady.pure _ hc h
  next hds =>
    split
    next ds' => exact absurd rfl (hc.ne_cons (by decide) hds ds')
    next => exact Steady.pure _ hc h

lemma steady_escape? : Steady (escape? f) := by
  intro cs cs' a rest hc h
  cases cs with
  | nil => cases h
  | cons c cs =>
    obtain ⟨cs', rfl, hs⟩ := hc.cons_left
    unfold escape? at h ⊢
    dsimp only at h ⊢
    split at h
    case h_1 => exact steady_hexEscape? 2 hs h
    case h_2 => exact steady_hexEscape? 4 hs h
    case h_3 => exact steady_hexEscape? 8 hs h
    case h_4 => exact steady_propertyEscape? false hs h
    case h_5 => exact steady_propertyEscape? true hs h
    case h_20 => exact steady_boundaryEscape? hs h
    case h_24 =>
      split at h
      next hsign =>
        rw [if_pos hsign]
        exact Steady.pure _ hs h
      next => cases h
    all_goals exact Steady.pure _ hs h

/-! ### Names -/

/-- The sign after a name is also the one after it in the closed text. -/
lemma takeWhile_append_closing {isInside : Char → Bool} {c : Char} {more : List Char}
    (h : cs.drop (cs.takeWhile isInside).length = c :: more) :
    (cs ++ closing).takeWhile isInside = cs.takeWhile isInside ∧
      (cs ++ closing).drop (cs.takeWhile isInside).length = c :: (more ++ closing) := by
  have hlt : (cs.takeWhile isInside).length < cs.length := by
    have hlength := congrArg List.length h
    rw [List.length_drop, List.length_cons] at hlength
    omega
  rw [List.takeWhile_append, if_neg (Nat.ne_of_lt hlt),
    List.drop_append_of_le_length (Nat.le_of_lt hlt), h]
  exact ⟨rfl, rfl⟩

/-- A name without a sign after it has none in the closed text. -/
lemma drop_takeWhile_append_closing {isInside : Char → Bool} (hinside : closing.all isInside)
    (h : cs.drop (cs.takeWhile isInside).length = []) :
    (cs ++ closing).drop ((cs ++ closing).takeWhile isInside).length = [] := by
  have hlength : (cs.takeWhile isInside).length = cs.length :=
    Nat.le_antisymm (List.takeWhile_prefix _).length_le (List.drop_eq_nil_iff.mp h)
  have hclosing : closing.takeWhile isInside = closing :=
    List.takeWhile_eq_self_iff.mpr (List.all_eq_true.mp hinside)
  rw [List.takeWhile_append, if_pos hlength, hclosing, List.drop_length]

/-! ### Brackets -/

namespace Bracket

/-- A named class is read in a pattern exactly if it is read in the closed one. -/
lemma namedClass?_append (cs : List Char) : namedClass? f (cs ++ closing) =
    (namedClass? f cs).map fun (s, rest) => (s, rest ++ closing) := by
  unfold namedClass?
  split
  next rest' hrest' =>
    obtain ⟨rest, rfl, hc⟩ := (hrest' ▸ Closed.append cs).cons_right (by decide)
    obtain rfl : rest' = rest ++ closing := (List.cons.inj hrest').2.symm
    have hsign : ((rest ++ closing).head? == some '^') = (rest.head? == some '^') := by
      cases rest <;> rfl
    have hafter : (if rest.head? == some '^' then (rest ++ closing).drop 1 else rest ++ closing) =
        (if rest.head? == some '^' then rest.drop 1 else rest) ++ closing := by
      cases rest with
      | nil => rfl
      | cons c rest => split <;> rfl
    simp only [hsign, hafter]
    generalize (if rest.head? == some '^' then rest.drop 1 else rest) = name
    rcases hdrop : name.drop (name.takeWhile (· != ':')).length with _ | ⟨c, more⟩
    · rw [drop_takeWhile_append_closing (by decide) hdrop]
      rfl
    · obtain ⟨hname, hdrop'⟩ := takeWhile_append_closing hdrop
      rw [hname, hdrop']
      split
      next more' heq =>
        obtain ⟨rfl, hmore⟩ := List.cons.inj heq
        obtain ⟨more, rfl, -⟩ := (hmore ▸ Closed.append more).cons_right (by decide)
        obtain rfl : more' = more ++ closing := (List.cons.inj hmore).2.symm
        simp [Option.map_map, Function.comp_def]
      next hnot =>
        split
        next more heq =>
          obtain ⟨rfl, rfl⟩ := List.cons.inj heq
          exact absurd rfl (hnot _)
        next => rfl
  next hnot =>
    split
    next rest => exact absurd rfl (hnot _)
    next => rfl

lemma namedClass?_closed (hc : Closed cs cs') :
    (namedClass? f cs = none ∧ namedClass? f cs' = none) ∨
      ∃ s rest rest', namedClass? f cs = some (s, rest) ∧ namedClass? f cs' = some (s, rest') ∧
        Closed rest rest' := by
  rcases hc with rfl | ⟨rfl, rfl⟩
  · rw [namedClass?_append]
    rcases namedClass? f cs with _ | ⟨s, rest⟩
    · exact Or.inl ⟨rfl, rfl⟩
    · exact Or.inr ⟨s, rest, _, rfl, rfl, .append rest⟩
  · exact Or.inl ⟨rfl, rfl⟩

/-- Hyphens are read out, however many rounds there are beyond the length of the text. -/
lemma leadingHyphens_closed {fuel fuel' : Nat} {l : Listing} (hc : Closed cs cs')
    (hfuel : cs.length ≤ fuel) (hle : fuel ≤ fuel') :
    (leadingHyphens f fuel' l cs').1 = (leadingHyphens f fuel l cs).1 ∧
      Closed (leadingHyphens f fuel l cs).2 (leadingHyphens f fuel' l cs').2 := by
  induction fuel generalizing fuel' l cs cs' with
  | zero =>
    obtain rfl := List.eq_nil_of_length_eq_zero (Nat.le_zero.mp hfuel)
    have hstop : leadingHyphens f fuel' l cs' = (l, cs') := by
      cases fuel' with
      | zero => rfl
      | succ fuel' => rcases hc with rfl | ⟨-, rfl⟩ <;> rfl
    rw [hstop]
    exact ⟨rfl, hc⟩
  | succ fuel ih =>
    obtain ⟨fuel', rfl⟩ := Nat.exists_eq_add_of_le' (Nat.le_trans (Nat.succ_pos fuel) hle)
    unfold leadingHyphens
    split
    next rest' =>
      obtain ⟨rest, rfl, hs⟩ := hc.cons_right (by decide)
      refine ih (hs.skip f) (Nat.le_trans f.length_skip_le ?_) (Nat.le_of_succ_le_succ hle)
      exact Nat.le_of_succ_le_succ hfuel
    next hnot =>
      split
      next rest =>
        obtain ⟨rest', rfl, -⟩ := hc.cons_left
        exact absurd rfl (hnot _)
      next => exact ⟨rfl, hc⟩

lemma opening_closed (hc : Closed cs cs') :
    (opening f cs').1 = (opening f cs).1 ∧ (opening f cs').2.1 = (opening f cs).2.1 ∧
      Closed (opening f cs).2.2 (opening f cs').2.2 := by
  have hs := hc.skip f
  have hnegated : ((f.skip cs').head? == some '^') = ((f.skip cs).head? == some '^') := by
    rw [Bool.eq_iff_iff, beq_iff_eq, beq_iff_eq, hs.head?_eq_some_iff (by decide)]
  have hafter : Closed
      (if (f.skip cs).head? == some '^' then f.skip ((f.skip cs).drop 1) else f.skip cs)
      (if (f.skip cs).head? == some '^' then f.skip ((f.skip cs').drop 1) else f.skip cs') := by
    split
    next hcaret =>
      obtain ⟨rest, hrest⟩ := List.head?_eq_some_iff.mp (beq_iff_eq.mp hcaret)
      obtain ⟨rest', hrest', hs⟩ := (hrest ▸ hs).cons_left
      rw [hrest, hrest']
      exact hs.skip f
    next => exact hs
  unfold opening
  simp only [hnegated]
  generalize (if (f.skip cs).head? == some '^' then f.skip ((f.skip cs).drop 1) else f.skip cs)
    = inside at hafter ⊢
  generalize (if (f.skip cs).head? == some '^' then f.skip ((f.skip cs').drop 1) else f.skip cs')
    = inside' at hafter ⊢
  obtain ⟨hlisted, hc⟩ := leadingHyphens_closed (f := f) (l := .empty) hafter (Nat.le_refl _)
    hafter.length_le
  rw [hlisted]
  split
  next rest' hcount hrest' =>
    obtain ⟨rest, hrest, hs⟩ := (hrest' ▸ hc).cons_right (by decide)
    simp only [hcount, hrest, true_and]
    exact hs.skip f
  next hnot =>
    split
    next rest hcount hrest =>
      obtain ⟨rest', hrest', -⟩ := (hrest ▸ hc).cons_left
      exact absurd hrest' (hnot _ hcount)
    next => exact ⟨rfl, rfl, hc⟩

lemma steady_element? : Steady (element? f) := by
  intro cs cs' a rest hc h
  cases cs with
  | nil => cases h
  | cons c cs =>
    obtain ⟨cs', rfl, hs⟩ := hc.cons_left
    unfold element? at h ⊢
    split at h
    next => cases h
    next heq =>
      obtain ⟨rfl, rfl⟩ := List.cons.inj heq
      exact steady_escape? hs h
    next hnot heq =>
      obtain ⟨rfl, rfl⟩ := List.cons.inj heq
      split
      next heq => cases heq
      next heq => exact absurd (List.cons.inj heq).1 hnot
      next heq =>
        obtain ⟨rfl, rfl⟩ := List.cons.inj heq
        exact Steady.pure _ hs h

lemma skipGaps_of_isBlank (hblank : ∀ c ∈ cs, Text.isBlank c) (inComment : Bool) :
    Flags.skipGaps inComment cs = [] := by
  induction cs generalizing inComment with
  | nil => rfl
  | cons c rest ih =>
    obtain ⟨hc, hrest⟩ := List.forall_mem_cons.mp hblank
    have hnumber : c ≠ '#' := by
      rintro rfl
      cases hc
    rw [Flags.skipGaps, if_neg hnumber, if_pos hc]
    split <;> exact ih hrest _

/-- Blanks before a text are skipped one way or the other. -/
lemma skipGaps_skipBlanks (cs : List Char) :
    Flags.skipGaps false (Text.skipBlanks cs) = Flags.skipGaps false cs := by
  induction cs with
  | nil => rfl
  | cons c rest ih =>
    unfold Text.skipBlanks at ih ⊢
    rw [List.dropWhile_cons]
    split
    next hc =>
      have hnumber : c ≠ '#' := by
        rintro rfl
        cases hc
      rw [ih, Flags.skipGaps.eq_2, if_neg (by decide), if_neg hnumber, if_pos hc]
    next => rfl

/-- What decides about a hyphen is the same, unless nothing follows the hyphen at all. -/
lemma deciding?_closed (hc : Closed cs cs') :
    deciding? f cs' = deciding? f cs ∨ deciding? f cs = none ∧ f.skip cs = [] := by
  have hhead : ∀ {c rest cs'}, Closed (c :: rest) cs' → cs'.head? = some c := by
    rintro c rest _ hc
    obtain ⟨rest', rfl, -⟩ := hc.cons_left
    rfl
  unfold deciding? Flags.skip
  split
  next =>
    have hb := hc.skipBlanks
    rw [← skipGaps_skipBlanks cs]
    rcases hcs : Text.skipBlanks cs with _ | ⟨c, rest⟩
    · exact Or.inr ⟨rfl, rfl⟩
    · obtain ⟨rest', hcs', hs⟩ := (hcs ▸ hb).cons_left
      rw [hcs']
      by_cases hnumber : c = '#'
      · subst hnumber
        have hb := hs.skipBlanks
        rcases hrest : Text.skipBlanks rest with _ | ⟨d, more⟩
        · refine Or.inr ⟨congrArg List.head? hrest, ?_⟩
          exact skipGaps_of_isBlank (List.dropWhile_eq_nil_iff.mp hrest) true
        · exact Or.inl ((hhead (hrest ▸ hb)).trans (congrArg List.head? hrest).symm)
      · left
        split
        next heq => exact absurd (List.cons.inj heq).1 hnumber
        next =>
          split
          next heq => exact absurd (List.cons.inj heq).1 hnumber
          next => rfl
  next =>
    cases cs with
    | nil => exact Or.inr ⟨rfl, rfl⟩
    | cons c rest => exact Or.inl (hhead hc)

lemma steady_range? : Steady (range? f) := by
  intro cs cs' s rest hc h
  unfold range? at h ⊢
  obtain ⟨first, rest₁, rest₁', -, hfirst, hs, h⟩ := steady_element?.of_bind hc h
  have hskip := hs.skip f
  simp only [hfirst, Option.bind_eq_bind, Option.bind_some] at h ⊢
  have hsingle : ∀ {rest₁ rest₁'}, Closed rest₁ rest₁' →
      (setOf? f first).map (fun s => (s, rest₁)) = some (s, rest) →
      ∃ rest', (setOf? f first).map (fun s => (s, rest₁')) = some (s, rest') ∧
        Closed rest rest' := by
    intro rest₁ rest₁' hs h
    obtain ⟨s', hset, heq⟩ := Option.map_eq_some_iff.mp h
    obtain ⟨rfl, rfl⟩ := Prod.mk.inj heq
    exact ⟨rest₁', by rw [hset]; rfl, hs⟩
  split at h
  next more hmore =>
    have hhyphen := hmore ▸ hskip
    obtain ⟨more', hmore', hs⟩ := hhyphen.cons_left
    rw [hmore'] at hhyphen ⊢
    rcases deciding?_closed (f := f) hs with hdeciding | ⟨hnone, hend⟩
    · simp only [hdeciding]
      generalize deciding? f more = c at h
      split at h
      next => exact hsingle hhyphen h
      next => exact hsingle hhyphen h
      next =>
        obtain ⟨last, rest₂, rest₂', -, hlast, hs, h⟩ := steady_element?.of_bind (hs.skip f) h
        obtain ⟨low, hlow, h⟩ := Option.bind_eq_some_iff.mp h
        obtain ⟨high, hhigh, h⟩ := Option.bind_eq_some_iff.mp h
        split at h
        next hle =>
          obtain ⟨rest', hread, hrest⟩ := Steady.pure _ hs h
          exact ⟨rest', by simpa [hlast, hlow, hhigh, hle] using hread, hrest⟩
        next => cases h
    · simp [hnone, hend, element?] at h
  next hnot =>
    split
    next more' hmore' => exact absurd hmore' (hskip.ne_cons (by decide) hnot more')
    next => exact hsingle hskip h

/-- A bracket is read up to its end, with any number of rounds that suffices. -/
lemma body?_closed {fuel fuel' : Nat} {frames : List Frame} {l : Listing} {part : ClassPart}
    (hc : Closed cs cs') (hle : fuel ≤ fuel') (h : body? f fuel frames l cs = some (part, rest)) :
    ∃ rest', body? f fuel' frames l cs' = some (part, rest') ∧ Closed rest rest' := by
  induction fuel generalizing fuel' frames l cs cs' with
  | zero => cases h
  | succ fuel ih =>
    obtain ⟨fuel', rfl⟩ := Nat.exists_eq_add_of_le' (Nat.le_trans (Nat.succ_pos fuel) hle)
    have hle := Nat.le_of_succ_le_succ hle
    have hs := hc.skip f
    unfold body? at h ⊢
    dsimp only at h ⊢
    split at h
    next => cases h
    next more hmore =>
      obtain ⟨more', hmore', hs⟩ := (hmore ▸ hs).cons_left
      simp only [hmore']
      rcases namedClass?_closed (f := f) hs with
        ⟨hnone, hnone'⟩ | ⟨s, rest₁, rest₁', hread, hread', hs⟩
      · simp only [hnone] at h
        simp only [hnone']
        obtain ⟨hnegated, hinside, hs⟩ := opening_closed (f := f) hs
        rw [hnegated, hinside]
        exact ih hs hle h
      · simp only [hread] at h
        obtain ⟨t, ht, h⟩ := Option.bind_eq_some_iff.mp h
        obtain ⟨rest', hbody, hrest⟩ := ih hs hle h
        exact ⟨rest', by simp [hread', ht, hbody], hrest⟩
    next more hmore =>
      obtain ⟨more', hmore', hs⟩ := (hmore ▸ hs).cons_left
      simp only [hmore']
      rcases hframes : (endOp f l.part frames).2 with _ | ⟨_ | _, outer⟩ <;> rw [hframes] at h
      · cases h
      · obtain ⟨t, ht, h⟩ := Option.bind_eq_some_iff.mp h
        split at h
        next houter =>
          obtain ⟨rest', hread, hrest⟩ := Steady.pure _ hs h
          exact ⟨rest', by simpa [ht, houter] using hread, hrest⟩
        next houter =>
          obtain ⟨rest', hbody, hrest⟩ := ih hs hle h
          exact ⟨rest', by simpa [ht, houter] using hbody, hrest⟩
      · cases h
    case h_4 more hmore | h_5 more hmore | h_6 more hmore =>
      obtain ⟨more', hmore', hs⟩ := (hmore ▸ hs).cons_left₂
      rw [hmore']
      exact ih hs hle h
    next hnil hopen hclose hand hhyphens htildes =>
      obtain ⟨s, rest₁, rest₁', -, hread, hs', h⟩ := steady_range?.of_bind hs h
      obtain ⟨rest', hbody, hrest⟩ := ih hs' hle h
      refine ⟨rest', ?_, hrest⟩
      -- nothing else can stand there in the closed text, which begins in the same way
      split
      next hmore' => exact absurd (hmore' ▸ hs).eq_nil hnil
      next hmore' => exact absurd hmore' (hs.ne_cons (by decide) hopen _)
      next hmore' => exact absurd hmore' (hs.ne_cons (by decide) hclose _)
      next hmore' => exact absurd hmore' (hs.ne_cons₂ (by decide) (by decide) hand _)
      next hmore' => exact absurd hmore' (hs.ne_cons₂ (by decide) (by decide) hhyphens _)
      next hmore' => exact absurd hmore' (hs.ne_cons₂ (by decide) (by decide) htildes _)
      next => simpa [hread] using hbody

end Bracket

lemma steady_bracket? : Steady (bracket? f) := by
  intro cs cs' part rest hc h
  obtain ⟨hnegated, hinside, hs⟩ := Bracket.opening_closed (f := f) hc
  unfold bracket? at h ⊢
  dsimp only at h ⊢
  rw [hnegated, hinside]
  exact Bracket.body?_closed hs (Nat.succ_le_succ hc.length_le) h

/-! ### Groups and repetitions -/

lemma steady_groupName? : Steady groupName? := by
  refine .of_append rfl fun cs name rest h => ?_
  unfold groupName? at h ⊢
  dsimp only at h ⊢
  rcases hdrop : cs.drop (cs.takeWhile (· != '>')).length with _ | ⟨c, more⟩
  · rw [hdrop] at h
    split at h
    next heq => cases heq
    next => cases h
  · obtain ⟨hname, hdrop'⟩ := takeWhile_append_closing hdrop
    rw [hdrop] at h
    rw [hname, hdrop']
    generalize cs.takeWhile (· != '>') = name₀ at h ⊢
    cases name₀ with
    | nil => cases h
    | cons first inner =>
      dsimp only at h ⊢
      split at h
      next hvalid =>
        obtain ⟨rfl, rfl⟩ := Prod.mk.inj (Option.some.inj h)
        exact if_pos hvalid
      next => cases h

lemma flagItems?_append {read items : List (Option Flag)} {last : Char} {more : List Char}
    (h : flagItems? read cs = some (items, last, rest)) :
    flagItems? read (cs ++ more) = some (items, last, rest ++ more) := by
  induction cs generalizing read with
  | nil => cases h
  | cons c cs ih =>
    rw [List.cons_append]
    unfold flagItems? at h ⊢
    split at h
    next hend =>
      rw [if_pos hend]
      split at h
      next => cases h
      next hsign =>
        obtain ⟨rfl, hrest⟩ := Prod.mk.inj (Option.some.inj h)
        obtain ⟨rfl, rfl⟩ := Prod.mk.inj hrest
        exact if_neg hsign
    next hend =>
      rw [if_neg hend]
      have hnext : ∀ {item : Option Flag},
          (if read.contains item then none else flagItems? (item :: read) cs) =
            some (items, last, rest) →
          (if read.contains item then none else flagItems? (item :: read) (cs ++ more)) =
            some (items, last, rest ++ more) := by
        intro item hitem
        split at hitem
        next => cases hitem
        next hnew => exact (if_neg hnew).trans (ih hitem)
      dsimp only at h ⊢
      split at h
      next hsign =>
        rw [if_pos hsign]
        exact hnext h
      next hsign =>
        rw [if_neg hsign]
        obtain ⟨item, hitem, h⟩ := Option.bind_eq_some_iff.mp h
        exact Option.bind_eq_some_iff.mpr ⟨item, hitem, hnext h⟩

lemma flagItems?_closed {read items : List (Option Flag)} {last : Char} (hc : Closed cs cs')
    (h : flagItems? read cs = some (items, last, rest)) :
    ∃ rest', flagItems? read cs' = some (items, last, rest') ∧ Closed rest rest' := by
  rcases hc with rfl | ⟨rfl, rfl⟩
  · exact ⟨_, flagItems?_append h, .append rest⟩
  · cases h

lemma steady_opening? : Steady (opening? f) := by
  intro cs cs' o rest hc h
  have hs := hc.skip f
  have hnamed : ∀ {more more'}, Closed more more' →
      (groupName? more).map (fun x => (Opening.named x.1, x.2)) = some (o, rest) →
      ∃ rest', (groupName? more').map (fun x => (Opening.named x.1, x.2)) = some (o, rest') ∧
        Closed rest rest' := by
    intro more more' hs h
    obtain ⟨⟨name, rest₁⟩, hname, heq⟩ := Option.map_eq_some_iff.mp h
    obtain ⟨rfl, rfl⟩ := Prod.mk.inj heq
    obtain ⟨rest', hname', hrest⟩ := steady_groupName? hs hname
    exact ⟨rest', by rw [hname']; rfl, hrest⟩
  unfold opening? at h ⊢
  split at h
  next => cases h
  next => cases h
  next => cases h
  next => cases h
  next more hmore =>
    obtain ⟨more', hmore', hs⟩ := (hmore ▸ hs).cons_left₃
    rw [hmore']
    exact hnamed hs h
  next more hequals hbang hmore =>
    obtain ⟨more', hmore', hs⟩ := (hmore ▸ hs).cons_left₂
    rw [hmore']
    have hequals' := hs.ne_cons (by decide) hequals
    have hbang' := hs.ne_cons (by decide) hbang
    simpa only [hequals', hbang'] using hnamed hs h
  next more hequals hbang _ _ hp hangle hmore =>
    obtain ⟨more', hmore', hs⟩ := (hmore ▸ hs).cons_left
    rw [hmore']
    have hequals' := hs.ne_cons (by decide) hequals
    have hbang' := hs.ne_cons (by decide) hbang
    have hangle' := hs.ne_cons (by decide) hangle
    have hp' := hs.ne_cons₂ (by decide) (by decide) hp
    obtain ⟨⟨items, last, rest₁⟩, hflags, h⟩ := Option.bind_eq_some_iff.mp h
    obtain ⟨rest₁', hflags', hs⟩ := flagItems?_closed hs hflags
    split
    next heq => exact absurd (List.cons.inj heq).2 (hequals' _)
    next heq => exact absurd (List.cons.inj heq).2 (hbang' _)
    next heq => exact absurd (List.cons.inj heq).2 (hangle' _)
    next heq => exact absurd (List.cons.inj heq).2 (hangle' _)
    next heq => exact absurd (List.cons.inj heq).2 (hp' _)
    next heq => exact absurd (List.cons.inj heq).2 (hangle' _)
    next heq =>
      obtain ⟨-, rfl⟩ := List.cons.inj heq
      rw [hflags']
      dsimp only [Option.bind_eq_bind, Option.bind_some] at h ⊢
      split at h
      next hcolon =>
        rw [if_pos hcolon]
        exact Steady.pure _ hs h
      next hcolon =>
        rw [if_neg hcolon]
        split at h
        next => cases h
        next hitems =>
          rw [if_neg hitems]
          exact Steady.pure _ hs h
    next hnot => exact absurd rfl (hnot _)
  next hquestion =>
    have hquestion' := hs.ne_cons (by decide) hquestion
    generalize f.skip cs' = ds' at hs hquestion' ⊢
    split <;> first | exact absurd rfl (hquestion' _) | exact Steady.pure _ hs h

lemma lazySign_closed (hc : Closed cs cs') :
    (lazySign cs').1 = (lazySign cs).1 ∧ Closed (lazySign cs).2 (lazySign cs').2 := by
  unfold lazySign
  split
  next rest' =>
    obtain ⟨rest, rfl, hs⟩ := hc.cons_right (by decide)
    exact ⟨rfl, hs⟩
  next hnot =>
    split
    next rest =>
      obtain ⟨rest', rfl, -⟩ := hc.cons_left
      exact absurd rfl (hnot _)
    next => exact ⟨rfl, hc⟩

end Provisioning.Pattern
