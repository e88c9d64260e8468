import Mathlib.Tactic.SplitIfs
import Provisioning.Proofs.Stored.Canonical
import Provisioning.Schema.Validation

/-!
Truth values and whole numbers, and their texts.

A client may send a truth value or a whole number as it is, or the text of it, and both are read
alike (`AttributeValue.readsAlike`). Both are texts and documents. Of the whole numbers 0 and 1 are
truth values, and those that fit into 64 bits with a sign are integers. Of the other kinds but
`list` and `decimal` neither form is a value: such a text has no colon and a hyphen at most at its
beginning (`Unparted`), so it is no date and no time, and it is too short for an identifier.
-/

namespace Provisioning

open Calendar Text

/-! ### Texts that are no dates, times and identifiers -/

/-- Characters among which there is no colon, and a hyphen at most at the beginning; fewer than the
digits of an identifier. -/
structure Unparted (cs : List Char) : Prop where
  colon : ':' ∉ cs
  hyphen : '-' ∉ cs.tail
  length_lt : cs.length < 32

section Reading

variable {cs rest : List Char} {c : Char} {n limit : Nat}

/-- A mark that is nowhere in a text does not come next. -/
lemma char?_eq_none (h : c ∉ cs) : char? c cs = none := by
  cases cs with
  | nil => rfl
  | cons d rest => exact if_neg (Ne.symm (List.ne_of_not_mem_cons h))

lemma char?_skipBlanks_eq_none (h : c ∉ cs) : char? c (skipBlanks cs) = none :=
  char?_eq_none fun hmem => h ((List.dropWhile_sublist _).subset hmem)

lemma tail_skipBlanks_subset (cs : List Char) : (skipBlanks cs).tail ⊆ cs.tail := by
  unfold skipBlanks
  induction cs with
  | nil => exact List.Subset.refl _
  | cons c rest ih =>
    rw [List.dropWhile_cons]
    split_ifs
    · exact List.Subset.trans ih (List.tail_subset rest)
    · exact List.Subset.refl _

lemma splitDigits_subset (limit : Nat) (cs : List Char) : (splitDigits limit cs).2 ⊆ cs := by
  fun_induction splitDigits limit cs with
  | case3 limit c rest hdigit ih => exact List.subset_cons_of_subset c ih
  | _ => exact List.Subset.refl _

/-- What follows the first digit is left to be read. -/
lemma subset_tail_of_splitDigits {ds : List Char} (hne : ds ≠ [])
    (h : splitDigits limit cs = (ds, rest)) : rest ⊆ cs.tail := by
  unfold splitDigits at h
  split at h
  next => exact absurd (Prod.mk.inj h).1.symm hne
  next => exact absurd (Prod.mk.inj h).1.symm hne
  next limit c more =>
    split_ifs at h
    · exact (Prod.mk.inj h).2 ▸ splitDigits_subset limit more
    · exact absurd (Prod.mk.inj h).1.symm hne

lemma subset_tail_of_number? (h : number? limit cs = some (n, rest)) : rest ⊆ cs.tail := by
  unfold number? at h
  split at h
  next => cases h
  next ds rest' hne hsplit =>
    obtain ⟨-, rfl⟩ := Prod.mk.inj (Option.some.inj h)
    exact subset_tail_of_splitDigits hne hsplit

lemma Date.subset_tail_of_year? {year : Int} (h : year? cs = some (year, rest)) :
    rest ⊆ cs.tail := by
  refine List.Subset.trans ?_ (tail_skipBlanks_subset cs)
  unfold year? at h
  split at h
  all_goals
    obtain ⟨⟨n, rest'⟩, hnumber, heq⟩ := Option.map_eq_some_iff.mp h
    obtain ⟨-, rfl⟩ := Prod.mk.inj heq
    have hsubset := subset_tail_of_number? hnumber
  next hcs => exact hcs ▸ List.Subset.trans hsubset (List.tail_subset _)
  next hcs => exact hcs ▸ List.Subset.trans hsubset (List.tail_subset _)
  next => exact hsubset

lemma Timestamp.subset_tail_of_fourDigits? (h : fourDigits? cs = some (n, rest)) :
    rest ⊆ cs.tail := by
  unfold fourDigits? at h
  split at h
  next hsplit =>
    obtain ⟨-, rfl⟩ := Prod.mk.inj (Option.some.inj h)
    exact subset_tail_of_splitDigits (List.cons_ne_nil _ _) hsplit
  next => cases h

end Reading

namespace Unparted

variable {cs : List Char} (h : Unparted cs)

include h

lemma date : Date.ofChars? cs = none := by
  rcases hyear : Date.year? cs with _ | ⟨year, rest⟩
  · unfold Date.ofChars?
    rw [hyear]
    rfl
  · have hhyphen : '-' ∉ rest := fun hmem => h.hyphen (Date.subset_tail_of_year? hyear hmem)
    unfold Date.ofChars?
    rw [bind_of_eq_some hyear]
    dsimp only
    rw [char?_skipBlanks_eq_none hhyphen]
    rfl

lemma time : Time.ofChars? cs = none := by
  rcases hhour : number? 2 (skipBlanks cs) with _ | ⟨hour, rest⟩
  · unfold Time.ofChars?
    rw [hhour]
    rfl
  · have hcolon : ':' ∉ rest := fun hmem => h.colon (List.mem_of_mem_tail
      (tail_skipBlanks_subset cs (subset_tail_of_number? hhour hmem)))
    unfold Time.ofChars?
    rw [bind_of_eq_some hhour]
    dsimp only
    rw [char?_skipBlanks_eq_none hcolon]
    rfl

lemma timestamp : Timestamp.ofChars? cs = none := by
  rcases hyear : Timestamp.fourDigits? cs with _ | ⟨year, rest⟩
  · unfold Timestamp.ofChars?
    rw [hyear]
    rfl
  · have hhyphen : '-' ∉ rest := fun hmem =>
      h.hyphen (Timestamp.subset_tail_of_fourDigits? hyear hmem)
    unfold Timestamp.ofChars?
    rw [bind_of_eq_some hyear]
    dsimp only
    rw [char?_eq_none hhyphen]
    rfl

lemma uuid : Uuid.ofChars? cs = none := by
  have hgroups : ∀ ds : List Char, ds.length < 36 → Uuid.ofGroups? ds = none := fun ds hds =>
    if_neg fun hand => by omega
  have hlength := h.length_lt
  unfold Uuid.ofChars?
  split
  next rest =>
    split_ifs
    · refine hgroups _ ?_
      rw [List.length_cons] at hlength
      rw [List.length_dropLast]
      omega
    · rfl
  next =>
    rw [if_neg (by omega)]
    split_ifs
    · refine hgroups _ ?_
      rw [List.length_drop]
      omega
    · exact hgroups _ (by omega)

end Unparted

/-! ### Whole numbers -/

/-- What is read of digits is the number that they denote. -/
lemma eq_valueAfter_of_readMagnitude {limit soFar : Nat} {beyond : IntFault} {ds : List Char}
    {within : soFar ≤ limit} {m : { n : Nat // n ≤ limit }}
    (h : readMagnitude limit beyond soFar within ds = .ok m) : m.1 = valueAfter soFar ds := by
  induction ds generalizing soFar with
  | nil => exact congrArg Subtype.val (Except.ok.inj h).symm
  | cons c rest ih =>
    unfold readMagnitude at h
    split at h
    next => cases h
    next d hd =>
      split_ifs at h with hnext
      rw [ih h]
      unfold valueAfter
      rw [List.foldl_cons, hd, Option.getD_some]

/-- Only a number that fits into 64 bits with a sign is read from its digits. -/
lemma int64Range_of_readUnsigned {n : Nat} {m : { n : Int // Int64Range n }}
    (h : readUnsigned (Nat.toDigits 10 n) = .ok m) : Int64Range n := by
  obtain ⟨k, hk, rfl⟩ := map_eq_ok.mp h
  have hvalue := eq_valueAfter_of_readMagnitude hk
  rw [valueAfter_toDigits] at hvalue
  exact hvalue ▸ int64Range_ofNat k.2

lemma int64Range_of_readInt64 {n : Int} (hn : Json.WholeRange n) {m : { n : Int // Int64Range n }}
    (h : readInt64 (AttributeValue.integerText n) = .ok m) : Int64Range n := by
  by_cases hneg : n < 0
  · exact ⟨hn.1, by omega⟩
  · obtain ⟨k, rfl⟩ : ∃ k : Nat, n = k := ⟨n.natAbs, by omega⟩
    obtain ⟨c, ds, hds, hc⟩ := exists_toDigits_eq_cons k
    have hplus : c ≠ '+' := ne_of_isDigit hc rfl
    have hminus : c ≠ '-' := ne_of_isDigit hc rfl
    refine int64Range_of_readUnsigned (n := k) (m := m) ?_
    unfold readInt64 AttributeValue.integerText Json.wholeChars at h
    rw [String.toList_ofList, if_neg hneg, List.nil_append, Int.natAbs_natCast] at h
    rw [hds] at h ⊢
    simpa [hplus, hminus] using h

namespace Json

/-- Truth values and whole numbers. -/
inductive IsScalar : Json → Prop
  | bool (b : Bool) : IsScalar (.bool b)
  | whole (n : Int) (inRange : WholeRange n) : IsScalar (.number (.whole n inRange))

lemma mem_wholeChars {n : Int} {c : Char} (h : c ∈ wholeChars n) : c = '-' ∨ isDigit c := by
  unfold wholeChars at h
  rcases List.mem_append.mp h with h | h
  · split_ifs at h
    · exact Or.inl (List.mem_singleton.mp h)
    · cases h
  · exact Or.inr (allDigits_toDigits _ c h)

lemma unparted_wholeChars {n : Int} (hn : WholeRange n) : Unparted (wholeChars n) where
  colon h := by
    rcases mem_wholeChars h with h | h
    · cases h
    · cases h
  hyphen h := by
    have hdigits : '-' ∉ Nat.toDigits 10 n.natAbs := fun hmem => by
      have := allDigits_toDigits _ _ hmem
      cases this
    unfold wholeChars at h
    split_ifs at h
    · exact hdigits h
    · exact hdigits (List.mem_of_mem_tail h)
  length_lt := by
    have hlt : n.natAbs < 10 ^ 20 := by
      obtain ⟨hl, hr⟩ := hn
      omega
    have hlength := (Nat.length_toDigits_le_iff (b := 10) (k := 20) (by decide) (by decide)).mpr hlt
    unfold wholeChars
    rw [List.length_append]
    split_ifs
    · rw [List.length_singleton]
      omega
    · rw [List.length_nil]
      omega

/-- The text of a truth value or a whole number. -/
lemma unparted_chars {j : Json} (h : j.IsScalar) : Unparted j.chars := by
  cases h with
  | bool b => cases b <;> exact ⟨by decide, by decide, by decide⟩
  | whole n inRange => exact unparted_wholeChars inRange

end Json

namespace AttributeValue

/-! ### Truth values -/

lemma trim_eq_self {s : String} (h : ∀ c ∈ s.toList, isBlank c = false) : trim s = s := by
  have hskip : ∀ cs : List Char, (∀ c ∈ cs, isBlank c = false) → skipBlanks cs = cs := by
    intro cs hcs
    cases cs with
    | nil => rfl
    | cons c rest => exact skipBlanks_cons (hcs c List.mem_cons_self)
  unfold trim
  rw [hskip _ h, hskip _ fun c hc => h c (List.mem_reverse.mp hc), List.reverse_reverse,
    String.ofList_toList]

section Words

variable {n : Int} {c : Char}

lemma isBlank_of_mem_wholeChars (h : c ∈ Json.wholeChars n) : isBlank c = false := by
  rcases Json.mem_wholeChars h with rfl | h
  · rfl
  · exact isBlank_of_isDigit h

lemma toLower_of_mem_wholeChars (h : c ∈ Json.wholeChars n) : c.toLower = c := by
  rcases Json.mem_wholeChars h with rfl | h
  · rfl
  · refine dif_neg fun hupper => ?_
    have hle : 65 ≤ c.toNat := UInt32.le_iff_toNat_le.mp hupper.1
    have := (toNat_of_isDigit h).2
    omega

/-- A whole number has no blanks and no capitals. -/
lemma word_integerText (n : Int) : asciiLower (trim (integerText n)) = integerText n := by
  have htoList : (integerText n).toList = Json.wholeChars n := String.toList_ofList
  rw [trim_eq_self fun c hc => isBlank_of_mem_wholeChars (htoList ▸ hc)]
  unfold asciiLower
  rw [htoList, List.map_congr_left fun c hc => toLower_of_mem_wholeChars hc, List.map_id']
  rfl

lemma integerText_inj {m : Int} (hm : Json.WholeRange m) (hn : Json.WholeRange n)
    (h : integerText m = integerText n) : m = n := by
  have := Json.render_inj (j := .number (.whole m hm)) (k := .number (.whole n hn)) h
  injection this with this
  injection this

/-- Where 0 and 1 are the only numbers among some words, no other number is one of them. -/
lemma contains_integerText (hn : Json.WholeRange n) (h0 : n ≠ 0) (h1 : n ≠ 1) {words : List String}
    (hwords : ∀ word ∈ words, word.toList.all (fun c => c == '-' || isDigit c) →
      word = integerText 0 ∨ word = integerText 1) :
    words.contains (integerText n) = false := by
  refine Bool.eq_false_iff.mpr fun hcontains => ?_
  have htoList : (integerText n).toList = Json.wholeChars n := String.toList_ofList
  have hchars : (integerText n).toList.all (fun c => c == '-' || isDigit c) := by
    rw [htoList, List.all_eq_true]
    intro c hc
    rcases Json.mem_wholeChars hc with rfl | h
    · rfl
    · exact Bool.or_eq_true_iff.mpr (Or.inr h)
  rcases hwords _ (List.contains_iff_mem.mp hcontains) hchars with h | h
  · exact h0 (integerText_inj hn (by decide) h)
  · exact h1 (integerText_inj hn (by decide) h)

/-- No whole number but 0 and 1 is a truth value. -/
lemma boolean?_integerText (hn : Json.WholeRange n) (h0 : n ≠ 0) (h1 : n ≠ 1) :
    boolean? (integerText n) = none := by
  unfold boolean?
  rw [word_integerText]
  dsimp only
  rw [contains_integerText hn h0 h1 (by decide +kernel),
    contains_integerText hn h0 h1 (by decide +kernel)]
  rfl

end Words

/-! ### Both forms -/

section Forms

variable {kind : AttributeKind} {j : Json}

/-- A truth value or a whole number is a document, and its text is the text of that document. -/
lemma ofText?_render_scalar (hj : j.IsScalar) : Json.ofText? j.render = some j := by
  cases hj with
  | bool b =>
    exact (Json.ofText?_render_iff (j := .bool b) trivial (List.forall_mem_nil _)).mpr
      (Nat.zero_le _)
  | whole n inRange =>
    exact (Json.ofText?_render_iff (j := .number (.whole n inRange)) trivial
      (List.forall_mem_nil _)).mpr (Nat.zero_le _)

lemma fromWire_boolean_whole {n : Int} (hn : Json.WholeRange n) :
    (fromWire .boolean (.number (.whole n hn))).toOption =
      (decode .boolean (integerText n)).toOption := by
  by_cases h0 : n = 0
  · subst h0
    rfl
  by_cases h1 : n = 1
  · subst h1
    rfl
  · unfold fromWire decode
    rw [boolean?_integerText hn h0 h1]
    dsimp only
    split
    next heq => exact absurd (by injection heq) h0
    next heq => exact absurd (by injection heq) h1
    next => rfl

lemma fromWire_integer_whole {n : Int} (hn : Json.WholeRange n) :
    (fromWire .integer (.number (.whole n hn))).toOption =
      (decode .integer (integerText n)).toOption := by
  unfold fromWire decode
  dsimp only
  by_cases hrange : Int64Range n
  · rw [dif_pos hrange, readInt64_integerText hrange]
  · rw [dif_neg hrange]
    cases hread : readInt64 (integerText n) with
    | ok m => exact absurd (int64Range_of_readInt64 hn hread) hrange
    | error fault => rfl

lemma fromWire_boolean (hj : j.IsScalar) :
    (fromWire .boolean j).toOption = (decode .boolean j.render).toOption := by
  cases hj with
  | bool b => cases b <;> rfl
  | whole n inRange => exact fromWire_boolean_whole inRange

lemma fromWire_integer (hj : j.IsScalar) :
    (fromWire .integer j).toOption = (decode .integer j.render).toOption := by
  cases hj with
  | bool b => cases b <;> rfl
  | whole n inRange => exact fromWire_integer_whole inRange

/-- Of dates, times, timestamps and identifiers none is a truth value or a whole number. -/
lemma fromWire_unparted (hkind : kind = .date ∨ kind = .time ∨ kind = .timestamp ∨ kind = .uuid)
    (hj : j.IsScalar) : (fromWire kind j).toOption = (decode kind j.render).toOption := by
  have hnone : (fromWire kind j).toOption = none := by
    rcases hkind with rfl | rfl | rfl | rfl <;> cases hj <;> rfl
  have hparts : Unparted j.render.toList := by
    rw [Json.render, String.toList_ofList]
    exact Json.unparted_chars hj
  rw [hnone]
  unfold decode
  rcases hkind with rfl | rfl | rfl | rfl
  · rw [Date.ofText?, hparts.date]
    rfl
  · rw [Time.ofText?, hparts.time]
    rfl
  · rw [Timestamp.ofText?, hparts.timestamp]
    rfl
  · rw [Uuid.ofText?, hparts.uuid]
    rfl

/-- A truth value or a whole number, of any kind but `list` and `decimal`, is read as the text of
it is, or neither is a value of the kind. -/
lemma toOption_fromWire (hlist : kind ≠ .list) (hdecimal : kind ≠ .decimal) (hj : j.IsScalar) :
    (fromWire kind j).toOption = (decode kind j.render).toOption := by
  cases kind with
  | list => exact absurd rfl hlist
  | decimal => exact absurd rfl hdecimal
  | text =>
    cases hj with
    | bool b => cases b <;> rfl
    | whole n inRange => rfl
  | document =>
    have hwire : fromWire .document j = .ok (.document j) := by cases hj <;> rfl
    unfold decode
    rw [hwire, ofText?_render_scalar hj]
  | boolean => exact fromWire_boolean hj
  | integer => exact fromWire_integer hj
  | date => exact fromWire_unparted (Or.inl rfl) hj
  | time => exact fromWire_unparted (Or.inr (Or.inl rfl)) hj
  | timestamp => exact fromWire_unparted (Or.inr (Or.inr (Or.inl rfl))) hj
  | uuid => exact fromWire_unparted (Or.inr (Or.inr (Or.inr rfl))) hj

/-- Values that are read alike are judged alike. -/
lemma judgeValue_congr {s : Schema} {d : AttributeDefinition} {k : Json}
    (h : (fromWire d.kind j).toOption = (fromWire d.kind k).toOption) :
    s.judgeValue d j = s.judgeValue d k := by
  unfold Schema.judgeValue
  cases hj : fromWire d.kind j with
  | error e =>
    rw [hj] at h
    cases hk : fromWire d.kind k with
    | error e' => rfl
    | ok w => cases hk ▸ h
  | ok v =>
    rw [hj] at h
    cases hk : fromWire d.kind k with
    | error e' => cases hk ▸ h
    | ok w =>
      rw [hk] at h
      obtain rfl : v = w := Option.some.inj h
      rfl

/-- A string is read as the text that it is, with the same fault if it is no value. -/
lemma fromWire_string (kind : AttributeKind) (s : String) :
    fromWire kind (.string s) = decode kind s := by
  cases kind <;> rfl

end Forms

/-- **A truth value or a whole number and its text are read alike**, of every kind but `list` and
`decimal`: as the same value, or as none. A string is read as the text that it is, of every kind and
with the same fault. So a proposed value is judged alike in both forms: accepted with the same
value, which is stored as the same text, or invalid. -/
theorem readsAlike (kind : AttributeKind) :
    (kind ≠ .list → kind ≠ .decimal → ∀ j : Json, j.IsScalar →
      (fromWire kind j).toOption = (decode kind j.render).toOption ∧
        ∀ (s : Schema) (d : AttributeDefinition), d.kind = kind →
          s.judgeValue d j = s.judgeValue d (.string j.render)) ∧
    ∀ raw, fromWire kind (.string raw) = decode kind raw := by
  refine ⟨fun hlist hdecimal j hj => ?_, fromWire_string kind⟩
  have hread := toOption_fromWire hlist hdecimal hj
  refine ⟨hread, fun s d hd => judgeValue_congr ?_⟩
  rw [hd, fromWire_string]
  exact hread

/-- The least number that fits into 64 bits only without a sign is an integer in neither form; 1 is
a truth value in both. -/
theorem readsAlike_sample :
    (fromWire .integer (.number (.whole 0x8000000000000000 (by decide)))).toOption =
        (decode .integer "9223372036854775808").toOption ∧
      (fromWire .boolean (.number (.whole 1 (by decide)))).toOption =
        (decode .boolean "1").toOption := by
  have hlimit := (readsAlike .integer).1 (by decide) (by decide) _
    (.whole 0x8000000000000000 (by decide))
  have hone := (readsAlike .boolean).1 (by decide) (by decide) _ (.whole 1 (by decide))
  exact ⟨hlimit.1, hone.1⟩

end AttributeValue

end Provisioning
