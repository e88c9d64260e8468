import Provisioning.Proofs.Pattern.Reading
import Provisioning.Proofs.Pattern.Search
import Provisioning.Schema.Basic

/-!
What a pattern means between its anchors.

The anchors are put around the text of a pattern, and what is compiled is the text that results. If
the pattern is well-formed by itself, then the two readers go hand in hand: the one of the pattern
with its anchors has everywhere one more group around it, the one in which the pattern stands
(`Pattern.expression?_closed`). So a well-formed pattern means between its anchors what it means by
itself, and it is found in a text exactly if it matches the text as a whole.
-/

namespace Provisioning.Pattern

/-- The group around a pattern that stands between its anchors, when the pattern begins. -/
def anchoredLevel : Level := ⟨none, [], [.anchor .textStart], {}⟩

/-- An expression between its anchors. -/
def Expression.anchored (e : Expression) : Expression :=
  .row [.anchor .textStart, .group none e, .anchor .textEnd]

/-- The outermost of the groups in progress has no number and stands under no flags. -/
def Grounded (level : Level) (outer : List Level) : Prop :=
  (outer.getLastD level).number = none ∧ (outer.getLastD level).around = {}

section Closed

variable {f : Flags} {groups : Groups} {level level' : Level} {outer : List Level}
  {cs cs' : List Char} {e e' : Expression} {fuel fuel' : Nat}

namespace Grounded

lemma of_level (h : Grounded level outer) (hnumber : level'.number = level.number)
    (haround : level'.around = level.around) : Grounded level' outer := by
  unfold Grounded at h ⊢
  cases outer with
  | nil => exact ⟨hnumber.trans h.1, haround.trans h.2⟩
  | cons up more => exact h

lemma push (h : Grounded level outer) (e : Expression) : Grounded (level.push e) outer :=
  h.of_level rfl rfl

lemma bar (h : Grounded level outer) : Grounded level.bar outer := h.of_level rfl rfl

lemma cons (h : Grounded level outer) (inside : Level) : Grounded inside (level :: outer) := by
  unfold Grounded
  rw [List.getLastD_cons]
  exact h

lemma of_cons {up : Level} (h : Grounded level (up :: outer)) : Grounded up outer := by
  unfold Grounded at h
  rw [List.getLastD_cons] at h
  exact h

lemma repeatLast? {least : Nat} {more : Option Nat} {lazy : Bool} (h : Grounded level outer)
    (hlevel : level.repeatLast? least more lazy = some level') : Grounded level' outer := by
  unfold Level.repeatLast? at hlevel
  split at hlevel
  next => cases hlevel
  next => cases hlevel
  next =>
    obtain rfl := Option.some.inj hlevel
    exact h.of_level rfl rfl

end Grounded

/-- Where the reader of the pattern is at its end, the other one ends as well. -/
lemma expression?_closing (hg : Grounded level []) (hs : Closed [] (f.skip cs'))
    (h' : expression? fuel f groups level [anchoredLevel] cs' = some e') :
    e' = level.close.anchored := by
  cases fuel with
  | zero => cases h'
  | succ fuel =>
    obtain ⟨hnumber, haround⟩ : level.number = none ∧ level.around = {} := hg
    unfold expression? at h'
    rcases hs with hs | ⟨-, hs⟩ <;> rw [hs] at h'
    · -- the parenthesis closes the group around the pattern, and the anchor is the last element
      have hclosed : expression? fuel level.around groups
          (anchoredLevel.push (.group level.number level.close)) [] ['$'] = some e' := h'
      rw [hnumber, haround] at hclosed
      cases fuel with
      | zero => cases hclosed
      | succ fuel =>
        have hanchor : expression? fuel {} groups ((anchoredLevel.push
            (.group none level.close)).push (.anchor .textEnd)) [] [] = some e' := hclosed
        cases fuel with
        | zero => cases hanchor
        | succ fuel => exact (Option.some.inj hanchor).symm
    · cases h'

/-- In so many rounds the two readers go hand in hand: wherever they are, what the one finds the
other finds between anchors. -/
def HandInHand (fuel : Nat) (e e' : Expression) : Prop :=
  ∀ (fuel' : Nat) (f : Flags) (groups : Groups) (level : Level) (outer : List Level)
    (cs cs' : List Char), Grounded level outer → Closed cs cs' →
    expression? fuel f groups level outer cs = some e →
    expression? fuel' f groups level (outer ++ [anchoredLevel]) cs' = some e' → e' = e.anchored

/-- Reads on after the beginning of a group. -/
def Opening.readOn? (fuel : Nat) (f : Flags) (groups : Groups) (level : Level) (outer : List Level)
    (cs : List Char) : Opening → Option Expression
  | .named name =>
    if groups.names.contains name then none
    else expression? fuel f ⟨groups.count + 1, name :: groups.names⟩
      (.start (some (groups.count + 1)) f) (level :: outer) cs
  | .numbered =>
    expression? fuel f { groups with count := groups.count + 1 }
      (.start (some (groups.count + 1)) f) (level :: outer) cs
  | .plain g => expression? fuel g groups (.start none f) (level :: outer) cs
  | .directive g => expression? fuel g groups (level.push .directive) outer cs

namespace HandInHand

/-- After an element. -/
lemma pushed (ih : HandInHand fuel e e') (hg : Grounded level outer) (hs : Closed cs cs')
    {element? : Option Expression}
    (h : (element?.bind fun element =>
      expression? fuel f groups (level.push element) outer cs) = some e)
    (h' : (element?.bind fun element =>
      expression? fuel' f groups (level.push element) (outer ++ [anchoredLevel]) cs') = some e') :
    e' = e.anchored := by
  obtain ⟨element, rfl, h⟩ := Option.bind_eq_some_iff.mp h
  exact ih _ _ _ _ _ _ _ (hg.push element) hs h h'

/-- After a repetition, the sign of a lazy one included. -/
lemma repeated (ih : HandInHand fuel e e') (hg : Grounded level outer) (hs : Closed cs cs')
    {least : Nat} {more : Option Nat}
    (h : ((level.repeatLast? least more ((lazySign cs).1 != f.swapGreed)).bind fun level =>
      expression? fuel f groups level outer (lazySign cs).2) = some e)
    (h' : ((level.repeatLast? least more ((lazySign cs').1 != f.swapGreed)).bind fun level =>
      expression? fuel' f groups level (outer ++ [anchoredLevel]) (lazySign cs').2) = some e') :
    e' = e.anchored := by
  obtain ⟨hlazy, hs⟩ := lazySign_closed hs
  rw [hlazy] at h'
  obtain ⟨level', hlevel, h⟩ := Option.bind_eq_some_iff.mp h
  rw [hlevel] at h'
  exact ih _ _ _ _ _ _ _ (hg.repeatLast? hlevel) hs h h'

/-- After the beginning of a group. -/
lemma opened (ih : HandInHand fuel e e') (hg : Grounded level outer) (hs : Closed cs cs')
    {opening : Opening} (h : opening.readOn? fuel f groups level outer cs = some e)
    (h' : opening.readOn? fuel' f groups level (outer ++ [anchoredLevel]) cs' = some e') :
    e' = e.anchored := by
  cases opening with
  | named name =>
    unfold Opening.readOn? at h h'
    dsimp only at h h'
    split at h
    next => cases h
    next hnew =>
      rw [if_neg hnew] at h'
      exact ih _ _ _ _ _ _ _ (hg.cons _) hs h h'
  | numbered => exact ih _ _ _ _ _ _ _ (hg.cons _) hs h h'
  | plain g => exact ih _ _ _ _ _ _ _ (hg.cons _) hs h h'
  | directive g => exact ih _ _ _ _ _ _ _ (hg.push _) hs h h'

/-- One more round. The two readers see the same sign, or the one of the pattern is at its end. -/
lemma succ (ih : HandInHand fuel e e') : HandInHand (fuel + 1) e e' := by
  intro fuel' f groups level outer cs cs' hg hc h h'
  cases fuel' with
  | zero => cases h'
  | succ fuel' =>
    have hs := hc.skip f
    unfold expression? at h
    dsimp only at h
    split at h
    next hnil =>
      split at h
      next houter =>
        obtain rfl := List.isEmpty_iff.mp houter
        obtain rfl := Option.some.inj h
        exact expression?_closing hg (hnil ▸ hs) h'
      next => cases h
    all_goals
      rename_i hmore
      obtain ⟨more', hmore', hs⟩ := (hmore ▸ hs).cons_left
      unfold expression? at h'
      rw [hmore'] at h'
    -- the signs stand in the order in which the reader looks for them, a parenthesis first
    case h_2 =>
      obtain ⟨opening, rest, rest', -, hread, hs, h⟩ := steady_opening?.of_bind hs h
      simp only [hread, Option.bind_eq_bind, Option.bind_some] at h'
      exact ih.opened hg hs h h'
    case h_3 =>
      cases outer with
      | nil => cases h
      | cons up above => exact ih _ _ _ _ _ _ _ (hg.of_cons.push _) hs h h'
    case h_4 => exact ih _ _ _ _ _ _ _ hg.bar hs h h'
    case h_5 =>
      obtain ⟨part, rest, rest', -, hread, hs, h⟩ := steady_bracket?.of_bind hs h
      simp only [hread, Option.bind_eq_bind, Option.bind_some] at h'
      exact ih.pushed hg hs h h'
    case h_6 | h_7 | h_8 => exact ih.repeated hg hs h h'
    -- bounds in braces
    case h_9 =>
      obtain ⟨inside, rest, rest', -, hread, hs, h⟩ := steady_braced?.of_bind hs h
      obtain ⟨⟨least, most⟩, hbounds, h⟩ := Option.bind_eq_some_iff.mp h
      simp only [hread, hbounds, Option.bind_eq_bind, Option.bind_some] at h'
      exact ih.repeated hg (hs.skip f) h h'
    case h_10 =>
      obtain ⟨atom, rest, rest', -, hread, hs, h⟩ := steady_escape?.of_bind hs h
      simp only [hread, Option.bind_eq_bind, Option.bind_some] at h'
      exact ih.pushed hg hs h h'
    case h_11 | h_12 | h_13 => exact ih.pushed hg hs h h'
    -- any other sign stands for itself
    case h_14 =>
      split at h' <;> rename_i heq
      case h_14 =>
        obtain ⟨rfl, rfl⟩ := List.cons.inj heq
        exact ih.pushed hg hs h h'
      -- for the pattern every other sign has been ruled out
      all_goals first | exact absurd (List.cons.inj heq).1 ‹_› | cases heq

end HandInHand

lemma handInHand (fuel : Nat) : HandInHand fuel e e' := by
  induction fuel with
  | zero => exact fun _ _ _ _ _ _ _ _ _ h => nomatch h
  | succ fuel ih => exact ih.succ

/-- The reader of the pattern with its anchors ends where the one of the pattern ends, and has found
the same between the anchors. -/
lemma expression?_closed (hg : Grounded level outer) (hc : Closed cs cs')
    (h : expression? fuel f groups level outer cs = some e)
    (h' : expression? fuel' f groups level (outer ++ [anchoredLevel]) cs' = some e') :
    e' = e.anchored := handInHand fuel fuel' f groups level outer cs cs' hg hc h h'

/-- A well-formed pattern is between its anchors what it is by itself. -/
lemma ofText?_anchored {text : String} (h : Expression.ofText? text = some e)
    (h' : Expression.ofText? (Provisioning.anchored text) = some e') : e' = e.anchored := by
  have hchars : (Provisioning.anchored text).toList =
      ['^', '(', '?', ':'] ++ (text.toList ++ closing) := by
    unfold Provisioning.anchored
    rw [String.toList_append, String.toList_append, List.append_assoc]
    rfl
  unfold Expression.ofText? Expression.ofChars? at h h'
  rw [hchars] at h'
  -- the first two rounds read the first anchor and the beginning of the group
  have hinside : expression? (text.toList ++ closing).length.succ.succ.succ {} ⟨0, []⟩
      (.start none {}) ([] ++ [anchoredLevel]) (text.toList ++ closing) = some e' := h'
  exact expression?_closed ⟨rfl, rfl⟩ (.append text.toList) h hinside

end Closed

/-! ### What is matched between anchors -/

section Whole

variable {text : List Char} {p : Pattern} {i j : Nat}

lemma spans_textStart_iff : Spans text (.anchor .textStart) i j ↔ i = 0 ∧ j = 0 := by
  refine ⟨?_, ?_⟩
  · rintro (_ | _ | ⟨hle, hholds⟩)
    cases i with
    | zero => exact ⟨rfl, rfl⟩
    | succ i =>
      have hnone : text[i]? = none := Option.isNone_iff_eq_none.mp hholds
      have := List.getElem?_eq_none_iff.mp hnone
      omega
  · rintro ⟨rfl, rfl⟩
    exact .anchor (Nat.zero_le _) rfl

lemma spans_textEnd_iff :
    Spans text (.anchor .textEnd) i j ↔ i = text.length ∧ j = text.length := by
  refine ⟨?_, ?_⟩
  · rintro (_ | _ | ⟨hle, hholds⟩)
    have hnone : text[i]? = none := Option.isNone_iff_eq_none.mp hholds
    have := List.getElem?_eq_none_iff.mp hnone
    omega
  · rintro ⟨rfl, rfl⟩
    exact .anchor (Nat.le_refl _) (by simp [Anchor.holds])

/-- A pattern between anchors is found in a text exactly if it matches the text as a whole. -/
lemma finds_anchored_iff :
    (Pattern.seq (.anchor .textStart) (.seq p (.anchor .textEnd))).Finds text ↔
      p.MatchesWhole text := by
  unfold Finds MatchesWhole
  refine ⟨?_, fun h => ?_⟩
  · rintro ⟨i, j, _ | _ | _ | ⟨hstart, _ | _ | _ | ⟨h, hend⟩⟩⟩
    obtain ⟨-, rfl⟩ := spans_textStart_iff.mp hstart
    obtain ⟨rfl, -⟩ := spans_textEnd_iff.mp hend
    exact h
  · exact ⟨0, text.length, .seq (spans_textStart_iff.mpr ⟨rfl, rfl⟩)
      (.seq h (spans_textEnd_iff.mpr ⟨rfl, rfl⟩))⟩

end Whole

end Provisioning.Pattern

namespace Provisioning.CompiledPattern

open Pattern

/-- A pattern that is well-formed by itself accepts exactly the texts that it matches as a whole. -/
lemma accepts_iff {text : String} {c : CompiledPattern} {e : Expression}
    (hc : ofText? text = some c) (he : Expression.ofText? text = some e) (subject : String) :
    c.accepts subject ↔ e.pattern.MatchesWhole subject.toList := by
  obtain ⟨p, hp, rfl⟩ := Option.map_eq_some_iff.mp hc
  obtain ⟨e', he', rfl⟩ := Option.map_eq_some_iff.mp hp
  obtain ⟨he', -⟩ := Option.filter_eq_some_iff.mp he'
  obtain rfl := ofText?_anchored he he'
  exact found_iff.trans finds_anchored_iff

end Provisioning.CompiledPattern
