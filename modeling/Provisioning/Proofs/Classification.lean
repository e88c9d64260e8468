import Provisioning.Proofs.Registry

/-!
What a validation reports.

Proposed entries are for one attribute if their names are its key in lower case. The first of them,
by the order of names, is judged, and the others only show that the attribute was given more than
once. `Schema.Classifies` says which names each list of a result has, and which values are accepted
and cleared, in terms of the proposed entries alone. The check of a schema that can be made gives
such a result (`Schema.classifies_check`): every finding is one of three sorts
(`Schema.Coherent.mem_findings_check`), and no check hides another.
-/

namespace Provisioning

/-- The compiled pattern of a definition that has one. -/
def AttributeDefinition.compiled? (d : AttributeDefinition) : Option CompiledPattern :=
  d.pattern.bind CompiledPattern.ofText?

/-! ### Proposed entries -/

section Entries

variable (proposed : SortedMap String Json) (d : AttributeDefinition)

/-- A value is proposed for an attribute under a name. -/
def EntryFor (name : String) (j : Json) : Prop :=
  proposed.get? name = some j ∧ Text.lower name = d.key

/-- An attribute is proposed. -/
def Proposed : Prop := ∃ name j, EntryFor proposed d name j

/-- An attribute is proposed under two names. -/
def GivenTwice : Prop :=
  ∃ name j name' j', EntryFor proposed d name j ∧ EntryFor proposed d name' j' ∧ name ≠ name'

/-- An attribute is proposed under a name less than a given one. -/
def GivenBefore (name : String) : Prop :=
  ∃ name' j', EntryFor proposed d name' j' ∧ compare name' name = .lt

/-- The value proposed for an attribute under the least of its names. -/
def FirstFor (j : Json) : Prop :=
  ∃ name, EntryFor proposed d name j ∧
    ∀ name' j', EntryFor proposed d name' j' → compare name' name ≠ .lt

/-- The value proposed for an attribute under the greatest of its names. -/
def LastFor (j : Json) : Prop :=
  ∃ name, EntryFor proposed d name j ∧
    ∀ name' j', EntryFor proposed d name' j' → compare name name' ≠ .lt

/-- The attribute of an existing user is one that must not change. -/
def Blocked (enforceReadOnly : Bool) (state : RecordState) : Prop :=
  enforceReadOnly ∧ d.readOnly ∧ state ≠ .new

/-- A proposed value is none of the kind of the attribute, or has a text that the pattern of the
attribute does not accept. -/
def Unfit (j : Json) : Prop :=
  (∃ e, AttributeValue.fromWire d.kind j = .error e) ∨
    ∃ v p subjects, AttributeValue.fromWire d.kind j = .ok v ∧ d.kind.isTextLike ∧
      d.compiled? = some p ∧ v.patternSubjects = some subjects ∧ ∃ t ∈ subjects, ¬p.accepts t

/-- A proposed value is one of the kind of the attribute, and the pattern accepts its texts. -/
def Fits (j : Json) (v : AttributeValue) : Prop :=
  AttributeValue.fromWire d.kind j = .ok v ∧ ¬Unfit d j

end Entries

/-- A list has the names with some property, in order and without repetition. -/
def Lists (names : List String) (property : String → Prop) : Prop :=
  names.Pairwise (compare · · = .lt) ∧ ∀ name, name ∈ names ↔ property name

namespace Schema

/-- No two definitions have one identifier. -/
def DistinctIds (s : Schema) : Prop :=
  ∀ d ∈ s.definitions, ∀ e ∈ s.definitions, d.id = e.id → d = e

instance (s : Schema) : Decidable s.DistinctIds :=
  inferInstanceAs (Decidable (∀ d ∈ s.definitions, ∀ e ∈ s.definitions, _ → d = e))

/-- An attribute of the schema is given a value. -/
def Gives (s : Schema) (enforceReadOnly : Bool) (state : RecordState)
    (proposed : SortedMap String Json) (d : AttributeDefinition) (v : AttributeValue) : Prop :=
  d ∈ s.definitions ∧ ¬Blocked d enforceReadOnly state ∧
    ∃ j, FirstFor proposed d j ∧ j ≠ .null ∧ Fits d j v

/-- A validation reports of the proposed entries what there is to be reported, and nothing else. -/
structure Classifies (s : Schema) (enforceReadOnly : Bool) (state : RecordState)
    (proposed : SortedMap String Json) (taken : SortedSet Uuid) (v : Validation) : Prop where
  /-- The names that no attribute has, as they were proposed. -/
  unknown : Lists v.result.unknown fun name =>
    (∃ j, proposed.get? name = some j) ∧ ∀ d ∈ s.definitions, d.key ≠ Text.lower name
  /-- The mandatory attributes to which the last entry gives no value, if the record is new. -/
  missingMandatory : Lists v.result.missingMandatory fun name =>
    ∃ d ∈ s.definitions, d.name = name ∧ d.mandatory ∧ state = .new ∧
      ∀ j, LastFor proposed d j → j = .null
  /-- The attributes that are given more than once or whose first value is unfit. -/
  invalid : Lists v.result.invalid fun name =>
    ∃ d ∈ s.definitions, d.name = name ∧ (GivenTwice proposed d ∨
      ¬Blocked d enforceReadOnly state ∧ ∃ j, FirstFor proposed d j ∧ j ≠ .null ∧ Unfit d j)
  /-- The unique attributes that are given a value and whose identifiers are taken. -/
  duplicate : Lists v.result.duplicate fun name =>
    ∃ d, d.name = name ∧ d.unique ∧ d.id ∈ taken ∧
      ∃ value, s.Gives enforceReadOnly state proposed d value
  /-- The attributes that must not change. -/
  readOnly : Lists v.result.readOnly fun name =>
    ∃ d ∈ s.definitions, d.name = name ∧ Proposed proposed d ∧ Blocked d enforceReadOnly state
  /-- All is well if no list has a name. -/
  ok : v.result.ok ↔ v.result.unknown = [] ∧ v.result.missingMandatory = [] ∧
    v.result.invalid = [] ∧ v.result.duplicate = [] ∧ v.result.readOnly = []
  /-- The accepted values and their stored forms. -/
  values : ∀ a, a ∈ v.values ↔ ∃ d value, s.Gives enforceReadOnly state proposed d value ∧
    a = ⟨d.id, d.name, value, value.encode⟩
  /-- The attributes whose values an existing user loses. -/
  cleared : ∀ id, id ∈ v.cleared ↔ ∃ d ∈ s.definitions, d.id = id ∧ state ≠ .new ∧
    ¬Blocked d enforceReadOnly state ∧ FirstFor proposed d .null

end Schema

/-! ### The first and the last entry -/

/-- What comes before an entry of a map is what has a lesser key. -/
lemma SortedMap.mem_before_iff {m : SortedMap String Json} {before after : List (String × Json)}
    {e e' : String × Json} (h : m.toList = before ++ e :: after) :
    e' ∈ before ↔ e' ∈ m.toList ∧ compare e'.1 e.1 = .lt := by
  have hascending := m.ascending
  rw [h] at hascending
  obtain ⟨-, hafter, hbefore⟩ := List.pairwise_append.mp hascending
  refine ⟨fun he => ⟨h ▸ List.mem_append_left _ he, hbefore _ he _ List.mem_cons_self⟩, ?_⟩
  rintro ⟨he, hlt⟩
  rw [h, List.mem_append, List.mem_cons] at he
  rcases he with he | rfl | he
  · exact he
  · simp at hlt
  · have hgt := (List.pairwise_cons.mp hafter).1 _ he
    exact absurd (Std.TransCmp.lt_trans hlt hgt) (by simp)

section Entries

variable {proposed : SortedMap String Json} {d : AttributeDefinition}

lemma entryFor_iff {name : String} {j : Json} :
    EntryFor proposed d name j ↔ (name, j) ∈ proposed.toList ∧ Text.lower name = d.key := by
  rw [EntryFor, SortedMap.get?_eq_some_iff]

/-- An attribute that is proposed has a first entry. -/
lemma exists_firstFor (h : Proposed proposed d) : ∃ j, FirstFor proposed d j := by
  obtain ⟨name, j, hentry⟩ := h
  rw [entryFor_iff] at hentry
  have hsome : (proposed.toList.find? fun e => Text.lower e.1 == d.key).isSome :=
    List.find?_isSome.mpr ⟨(name, j), hentry.1, by simp only [hentry.2, beq_self_eq_true]⟩
  obtain ⟨⟨name₁, j₁⟩, hfind⟩ := Option.isSome_iff_exists.mp hsome
  obtain ⟨hkey, before, after, hsplit, hbefore⟩ := List.find?_eq_some_iff_append.mp hfind
  rw [beq_iff_eq] at hkey
  refine ⟨j₁, name₁, entryFor_iff.mpr ⟨by simp [hsplit], hkey⟩, ?_⟩
  intro name' j' hentry' hlt
  rw [entryFor_iff] at hentry'
  have hmem := (SortedMap.mem_before_iff hsplit).mpr ⟨hentry'.1, hlt⟩
  simpa [hentry'.2] using hbefore _ hmem

/-- An attribute that is given twice is given under a name that is not the least. -/
lemma givenTwice_iff :
    GivenTwice proposed d ↔ ∃ name j, EntryFor proposed d name j ∧ GivenBefore proposed d name := by
  refine ⟨?_, ?_⟩
  · rintro ⟨name, j, name', j', hentry, hentry', hne⟩
    rcases hcompare : compare name name' with _ | _ | _
    · exact ⟨name', j', hentry', name, j, hentry, hcompare⟩
    · exact absurd (Std.LawfulEqOrd.eq_of_compare hcompare) hne
    · exact ⟨name, j, hentry, name', j', hentry', Std.OrientedCmp.lt_of_gt hcompare⟩
  · rintro ⟨name, j, hentry, name', j', hentry', hlt⟩
    refine ⟨name', j', name, j, hentry', hentry, ?_⟩
    rintro rfl
    simp at hlt

lemma firstFor_iff {j : Json} :
    FirstFor proposed d j ↔ ∃ name, EntryFor proposed d name j ∧ ¬GivenBefore proposed d name := by
  unfold FirstFor GivenBefore
  push Not
  rfl

lemma proposed_iff : Proposed proposed d ↔ ∃ j, FirstFor proposed d j :=
  ⟨exists_firstFor, fun ⟨j, name, hentry, _⟩ => ⟨name, j, hentry⟩⟩

/-- The last of the entries for an attribute has the greatest of their names. -/
lemma lastFor_of_getLast? {p : String × Json → Bool}
    (hp : ∀ e, p e = true ↔ Text.lower e.1 = d.key) {e : String × Json}
    (h : (proposed.toList.filter p).getLast? = some e) : LastFor proposed d e.2 := by
  obtain ⟨others, hothers⟩ := List.getLast?_eq_some_iff.mp h
  have hmem : ∀ e', e' ∈ others ++ [e] ↔ EntryFor proposed d e'.1 e'.2 := fun e' => by
    rw [← hothers, List.mem_filter, hp, entryFor_iff]
  refine ⟨e.1, (hmem e).mp (by simp), fun name' j' hentry' hlt => ?_⟩
  have hascending : (others ++ [e]).Pairwise fun a b => compare a.1 b.1 = .lt :=
    hothers ▸ List.Pairwise.filter _ proposed.ascending
  rcases List.mem_append.mp ((hmem (name', j')).mpr hentry') with hbefore | hsame
  · have hgt := (List.pairwise_append.mp hascending).2.2 _ hbefore e (List.mem_singleton_self e)
    exact absurd (Std.TransCmp.lt_trans hlt hgt) (by simp)
  · obtain rfl := List.mem_singleton.mp hsame
    simp at hlt

/-- An attribute that is proposed has a last entry. -/
lemma exists_lastFor (h : Proposed proposed d) : ∃ j, LastFor proposed d j := by
  obtain ⟨name, j, hentry⟩ := h
  rw [entryFor_iff] at hentry
  have hmem : (name, j) ∈ proposed.toList.filter fun e => Text.lower e.1 == d.key :=
    List.mem_filter.mpr ⟨hentry.1, beq_iff_eq.mpr hentry.2⟩
  exact ⟨_, lastFor_of_getLast? (fun _ => beq_iff_eq)
    (List.getLast?_eq_some_getLast (List.ne_nil_of_mem hmem))⟩

/-- An attribute has one last entry. -/
lemma LastFor.eq {j j' : Json} (h : LastFor proposed d j) (h' : LastFor proposed d j') :
    j = j' := by
  obtain ⟨name, hentry, hlast⟩ := h
  obtain ⟨name', hentry', hlast'⟩ := h'
  have hname : name = name' := by
    rcases hcompare : compare name name' with _ | _ | _
    · exact absurd hcompare (hlast name' j' hentry')
    · exact Std.LawfulEqOrd.eq_of_compare hcompare
    · exact absurd (Std.OrientedCmp.lt_of_gt hcompare) (hlast' name j hentry)
  subst hname
  exact Option.some.inj (hentry.1.symm.trans hentry'.1)

end Entries

/-! ### Findings -/

lemma Json.isNull_iff {j : Json} : j.isNull = true ↔ j = .null := by cases j <;> simp [isNull]

lemma Json.not_isNull_iff {j : Json} : (!j.isNull) = true ↔ j ≠ .null := by
  rw [Bool.not_eq_true', ← Bool.not_eq_true, isNull_iff]

namespace Finding

variable {fs : List Finding}

lemma mem_unknownNames {name : String} :
    name ∈ fs.filterMap unknownName? ↔ .unknown name ∈ fs := by
  grind [unknownName?, cases Finding]

lemma mem_invalidNames {name : String} :
    name ∈ fs.filterMap invalidName? ↔
      ∃ d, d.name = name ∧ (.repeated d ∈ fs ∨ .invalid d ∈ fs) := by
  grind [invalidName?, cases Finding]

lemma mem_readOnlyNames {name : String} :
    name ∈ fs.filterMap readOnlyName? ↔ ∃ d, d.name = name ∧ .readOnly d ∈ fs := by
  grind [readOnlyName?, cases Finding]

lemma mem_clearedIds {id : Uuid} :
    id ∈ fs.filterMap clearedId? ↔ ∃ d, d.id = id ∧ .cleared d ∈ fs := by
  grind [clearedId?, cases Finding]

lemma mem_acceptedValues {a : AcceptedValue} :
    a ∈ fs.filterMap acceptedValue? ↔
      ∃ d v, .accepted d v ∈ fs ∧ a = ⟨d.id, d.name, v, v.encode⟩ := by
  grind [acceptedValue?, cases Finding]

lemma mem_probes_iff {p : Probe} :
    p ∈ fs.filterMap probe? ↔
      ∃ d v, .accepted d v ∈ fs ∧ d.unique ∧ p = ⟨d.id, d.name, v.encode⟩ := by
  grind [probe?, cases Finding]

end Finding

namespace Schema

variable {s : Schema} {enforceReadOnly : Bool} {state : RecordState}
  {proposed : SortedMap String Json} {d : AttributeDefinition} {f : Finding}

/-- What is to be found about the first value for an attribute. -/
inductive Verdict (d : AttributeDefinition) (enforceReadOnly : Bool) (state : RecordState)
    (j : Json) : Finding → Prop
  | readOnly (h : Blocked d enforceReadOnly state) : Verdict d enforceReadOnly state j (.readOnly d)
  | absent (h : ¬Blocked d enforceReadOnly state) (hj : j = .null) (hstate : state = .new) :
    Verdict d enforceReadOnly state j (.absent d)
  | cleared (h : ¬Blocked d enforceReadOnly state) (hj : j = .null) (hstate : state ≠ .new) :
    Verdict d enforceReadOnly state j (.cleared d)
  | invalid (h : ¬Blocked d enforceReadOnly state) (hj : j ≠ .null) (hunfit : Unfit d j) :
    Verdict d enforceReadOnly state j (.invalid d)
  | accepted {v : AttributeValue} (h : ¬Blocked d enforceReadOnly state) (hj : j ≠ .null)
    (hfits : Fits d j v) : Verdict d enforceReadOnly state j (.accepted d v)

/-- There is one verdict on a value. -/
lemma Verdict.eq {j : Json} {f f' : Finding} (h : Verdict d enforceReadOnly state j f)
    (h' : Verdict d enforceReadOnly state j f') : f = f' := by
  cases h with
  | readOnly h => cases h' <;> first | rfl | contradiction
  | absent h hj hstate => cases h' <;> first | rfl | contradiction
  | cleared h hj hstate => cases h' <;> first | rfl | contradiction
  | invalid h hj hunfit =>
    cases h' with
    | invalid => rfl
    | accepted _ _ hfits => exact absurd hunfit hfits.2
    | _ => contradiction
  | accepted h hj hfits =>
    cases h' with
    | invalid _ _ hunfit => exact absurd hunfit hfits.2
    | accepted _ _ hfits' => rw [Except.ok.inj (hfits.1.symm.trans hfits'.1)]
    | _ => contradiction

/-- Judges the first value for an attribute. -/
def judgeFirst (s : Schema) (enforceReadOnly : Bool) (state : RecordState)
    (d : AttributeDefinition) (j : Json) : Finding :=
  if enforceReadOnly && d.readOnly && !state.isNew then .readOnly d
  else if j.isNull then (if state.isNew then .absent d else .cleared d)
  else s.judgeValue d j

lemma eq_judge_iff {earlier : List String} {name : String} {j : Json} :
    f = s.judge enforceReadOnly state earlier name j ↔
      s.resolve name = none ∧ f = .unknown name ∨
      ∃ d, s.resolve name = some d ∧ (d.key ∈ earlier ∧ f = .repeated d ∨
        d.key ∉ earlier ∧ f = s.judgeFirst enforceReadOnly state d j) := by
  unfold judge judgeFirst
  rcases s.resolve name with _ | d
  · simp
  · by_cases h : d.key ∈ earlier <;> simp [h]

/-- Every entry is judged after those before it. -/
lemma mem_findings_iff (earlier : List String) (entries : List (String × Json)) :
    f ∈ s.findings enforceReadOnly state earlier entries ↔
      ∃ before name j after, entries = before ++ (name, j) :: after ∧
        f = s.judge enforceReadOnly state
          (before.reverse.flatMap (fun e => (s.keyOf? e.1).toList) ++ earlier) name j := by
  induction entries generalizing earlier with
  | nil => simp [findings]
  | cons entry rest ih =>
    obtain ⟨name, j⟩ := entry
    simp only [findings, List.mem_cons, ih]
    refine ⟨?_, ?_⟩
    · rintro (rfl | ⟨before, name', j', after, rfl, rfl⟩)
      · exact ⟨[], name, j, rest, rfl, rfl⟩
      · exact ⟨(name, j) :: before, name', j', after, rfl, by simp⟩
    · rintro ⟨_ | ⟨entry, before⟩, name', j', after, hsplit, rfl⟩
      · obtain ⟨hentry, -⟩ := List.cons.inj hsplit
        obtain ⟨rfl, rfl⟩ := Prod.mk.inj hentry
        exact Or.inl rfl
      · obtain ⟨rfl, rfl⟩ := List.cons.inj hsplit
        exact Or.inr ⟨before, name', j', after, rfl, by simp⟩

namespace Coherent

variable (hs : s.Coherent)

include hs

/-- A name that finds no attribute is the key of none. -/
lemma resolve_eq_none_iff {name : String} :
    s.resolve name = none ↔ ∀ d ∈ s.definitions, d.key ≠ Text.lower name := by
  rw [Option.eq_none_iff_forall_ne_some]
  exact ⟨fun h d hd hkey => h d (hs.resolve_eq_some_iff.mpr ⟨hd, hkey⟩),
    fun h d hd => h d (hs.resolve_eq_some_iff.mp hd).1 (hs.resolve_eq_some_iff.mp hd).2⟩

/-- The attribute of an entry was met before if a lesser name is for it. -/
lemma met_iff {before after : List (String × Json)} {name : String} {j : Json}
    (hsplit : proposed.toList = before ++ (name, j) :: after) (hd : d ∈ s.definitions) :
    d.key ∈ before.reverse.flatMap (fun e => (s.keyOf? e.1).toList) ++ [] ↔
      GivenBefore proposed d name := by
  simp only [List.append_nil, List.mem_flatMap, List.mem_reverse, Option.mem_toList,
    hs.keyOf?_eq_some_iff hd, SortedMap.mem_before_iff hsplit, Prod.exists, GivenBefore,
    entryFor_iff]
  exact exists_congr fun _ => exists_congr fun _ => and_right_comm

/-- A finding is what is found about an entry. -/
lemma mem_findings_check_iff :
    f ∈ (s.check enforceReadOnly state proposed).findings ↔
      ∃ name j, proposed.get? name = some j ∧
        (s.resolve name = none ∧ f = .unknown name ∨
        ∃ d, s.resolve name = some d ∧ (GivenBefore proposed d name ∧ f = .repeated d ∨
          ¬GivenBefore proposed d name ∧ f = s.judgeFirst enforceReadOnly state d j)) := by
  have hjudge : ∀ before name j after, proposed.toList = before ++ (name, j) :: after →
      (f = s.judge enforceReadOnly state
          (before.reverse.flatMap (fun e => (s.keyOf? e.1).toList) ++ []) name j ↔
        s.resolve name = none ∧ f = .unknown name ∨
        ∃ d, s.resolve name = some d ∧ (GivenBefore proposed d name ∧ f = .repeated d ∨
          ¬GivenBefore proposed d name ∧ f = s.judgeFirst enforceReadOnly state d j)) := by
    intro before name j after hsplit
    rw [eq_judge_iff]
    refine or_congr_right (exists_congr fun d => and_congr_right fun hd => ?_)
    rw [hs.met_iff hsplit (hs.resolve_eq_some_iff.mp hd).1]
  unfold check
  rw [mem_findings_iff]
  refine ⟨?_, ?_⟩
  · rintro ⟨before, name, j, after, hsplit, hf⟩
    exact ⟨name, j, SortedMap.get?_eq_some_iff.mpr (by simp [hsplit]),
      (hjudge before name j after hsplit).mp hf⟩
  · rintro ⟨name, j, hget, hf⟩
    obtain ⟨before, after, hsplit⟩ := List.append_of_mem (SortedMap.get?_eq_some_iff.mp hget)
    exact ⟨before, name, j, after, hsplit, (hjudge before name j after hsplit).mpr hf⟩

/-- A value has an unfit text if the pattern does not accept it. -/
lemma patternAccepts_eq_false_iff (hd : d ∈ s.definitions) {v : AttributeValue} :
    s.patternAccepts d v = false ↔ ∃ p subjects, d.kind.isTextLike ∧ d.compiled? = some p ∧
      v.patternSubjects = some subjects ∧ ∃ t ∈ subjects, ¬p.accepts t := by
  unfold patternAccepts
  rw [hs.pattern?_key hd, ← AttributeDefinition.compiled?]
  cases d.kind.isTextLike <;> rcases d.compiled? with _ | p <;>
    rcases v.patternSubjects with _ | subjects <;> simp

lemma judgeValue_eq (hd : d ∈ s.definitions) (j : Json) :
    Unfit d j ∧ s.judgeValue d j = .invalid d ∨
      ∃ v, Fits d j v ∧ s.judgeValue d j = .accepted d v := by
  unfold judgeValue Fits Unfit
  split
  next e he => exact Or.inl ⟨Or.inl ⟨e, he⟩, rfl⟩
  next v hv =>
    by_cases haccepts : s.patternAccepts d v
    · refine Or.inr ⟨v, ⟨hv, ?_⟩, if_pos haccepts⟩
      rintro (⟨e, he⟩ | ⟨v', p, subjects, hv', hunfit⟩)
      · cases hv.symm.trans he
      · obtain rfl := Except.ok.inj (hv.symm.trans hv')
        rw [(hs.patternAccepts_eq_false_iff hd).mpr ⟨p, subjects, hunfit⟩] at haccepts
        cases haccepts
    · obtain ⟨p, subjects, hunfit⟩ :=
        (hs.patternAccepts_eq_false_iff hd).mp (Bool.eq_false_iff.mpr haccepts)
      exact Or.inl ⟨Or.inr ⟨v, p, subjects, hv, hunfit⟩, if_neg haccepts⟩

/-- The first value for an attribute is judged as it is to be. -/
lemma verdict_judgeFirst (hd : d ∈ s.definitions) (j : Json) :
    Verdict d enforceReadOnly state j (s.judgeFirst enforceReadOnly state d j) := by
  have hblocked : (enforceReadOnly && d.readOnly && !state.isNew) = true ↔
      Blocked d enforceReadOnly state := by
    cases state <;> simp [Blocked, RecordState.isNew]
  have hnew : state.isNew = true ↔ state = .new := by cases state <;> simp [RecordState.isNew]
  unfold judgeFirst
  split
  next h => exact .readOnly (hblocked.mp h)
  next h =>
    have hopen := fun hb => h (hblocked.mpr hb)
    split
    next hj =>
      split
      next hstate => exact .absent hopen (Json.isNull_iff.mp hj) (hnew.mp hstate)
      next hstate =>
        exact .cleared hopen (Json.isNull_iff.mp hj) fun hnew' => hstate (hnew.mpr hnew')
    next hj =>
      have hvalue := fun hnull => hj (Json.isNull_iff.mpr hnull)
      rcases hs.judgeValue_eq hd j with ⟨hunfit, heq⟩ | ⟨v, hfits, heq⟩
      · exact heq ▸ .invalid hopen hvalue hunfit
      · exact heq ▸ .accepted hopen hvalue hfits

/-- The findings are of three sorts: a name that no attribute has, an attribute given twice, and a
judgement of the first value for an attribute. -/
lemma mem_findings_check :
    f ∈ (s.check enforceReadOnly state proposed).findings ↔
      (∃ name, (∃ j, proposed.get? name = some j) ∧
        (∀ d ∈ s.definitions, d.key ≠ Text.lower name) ∧ f = .unknown name) ∨
      (∃ d ∈ s.definitions, GivenTwice proposed d ∧ f = .repeated d) ∨
      ∃ d ∈ s.definitions, ∃ j, FirstFor proposed d j ∧
        Verdict d enforceReadOnly state j f := by
  have hverdict : ∀ d ∈ s.definitions, ∀ j, f = s.judgeFirst enforceReadOnly state d j ↔
      Verdict d enforceReadOnly state j f := fun d hd j =>
    ⟨fun h => h ▸ hs.verdict_judgeFirst hd j, fun h => h.eq (hs.verdict_judgeFirst hd j)⟩
  simp only [hs.mem_findings_check_iff, givenTwice_iff, firstFor_iff, hs.resolve_eq_none_iff,
    hs.resolve_eq_some_iff, EntryFor]
  grind

lemma unknown_mem_findings {name : String} :
    .unknown name ∈ (s.check enforceReadOnly state proposed).findings ↔
      (∃ j, proposed.get? name = some j) ∧ ∀ d ∈ s.definitions, d.key ≠ Text.lower name := by
  rw [hs.mem_findings_check]
  grind [Verdict]

lemma repeated_mem_findings :
    .repeated d ∈ (s.check enforceReadOnly state proposed).findings ↔
      d ∈ s.definitions ∧ GivenTwice proposed d := by
  rw [hs.mem_findings_check]
  grind [Verdict]

lemma readOnly_mem_findings :
    .readOnly d ∈ (s.check enforceReadOnly state proposed).findings ↔
      d ∈ s.definitions ∧ Proposed proposed d ∧ Blocked d enforceReadOnly state := by
  rw [hs.mem_findings_check, proposed_iff]
  grind [Verdict]

lemma cleared_mem_findings :
    .cleared d ∈ (s.check enforceReadOnly state proposed).findings ↔
      d ∈ s.definitions ∧ ¬Blocked d enforceReadOnly state ∧ state ≠ .new ∧
        FirstFor proposed d .null := by
  rw [hs.mem_findings_check]
  grind [Verdict]

lemma invalid_mem_findings :
    .invalid d ∈ (s.check enforceReadOnly state proposed).findings ↔
      d ∈ s.definitions ∧ ¬Blocked d enforceReadOnly state ∧
        ∃ j, FirstFor proposed d j ∧ j ≠ .null ∧ Unfit d j := by
  rw [hs.mem_findings_check]
  grind [Verdict]

lemma accepted_mem_findings {v : AttributeValue} :
    .accepted d v ∈ (s.check enforceReadOnly state proposed).findings ↔
      s.Gives enforceReadOnly state proposed d v := by
  rw [hs.mem_findings_check]
  unfold Gives
  grind [Verdict]

/-- An attribute is supplied if its last entry gives it a value. -/
lemma supplied_iff (hd : d ∈ s.definitions) :
    s.supplied proposed.toList d ↔ ∃ j, LastFor proposed d j ∧ j ≠ .null := by
  have hfilter : ∀ e : String × Json, (s.keyOf? e.1 == some d.key) = true ↔
      Text.lower e.1 = d.key := fun e => by rw [beq_iff_eq, hs.keyOf?_eq_some_iff hd]
  unfold supplied
  split
  next e he =>
    have hlast := lastFor_of_getLast? hfilter he
    rw [Json.not_isNull_iff]
    exact ⟨fun h => ⟨e.2, hlast, h⟩, fun ⟨j, hj, hne⟩ => hlast.eq hj ▸ hne⟩
  next hnone =>
    have hempty := List.getLast?_eq_none_iff.mp hnone
    refine ⟨fun h => (Bool.false_ne_true h).elim, ?_⟩
    rintro ⟨j, ⟨name, hentry, -⟩, -⟩
    rw [entryFor_iff] at hentry
    have hmem : (name, j) ∈ ([] : List (String × Json)) :=
      hempty ▸ List.mem_filter.mpr ⟨hentry.1, (hfilter _).mpr hentry.2⟩
    exact absurd hmem List.not_mem_nil

lemma mem_missing {name : String} :
    name ∈ s.missing state proposed.toList ↔ ∃ d ∈ s.definitions, d.name = name ∧ d.mandatory ∧
      state = .new ∧ ∀ j, LastFor proposed d j → j = .null := by
  have hsupplied : ∀ d ∈ s.definitions, s.supplied proposed.toList d = false ↔
      ∀ j, LastFor proposed d j → j = .null := fun d hd => by
    rw [← Bool.not_eq_true, hs.supplied_iff hd]
    push Not
    rfl
  unfold missing
  cases state with
  | existing user => simp [RecordState.isNew]
  | new =>
    simp only [RecordState.isNew, if_true, List.mem_map, List.mem_filter, mandatory,
      Bool.not_eq_true']
    grind

lemma mem_duplicates_check (hids : s.DistinctIds) {taken : SortedSet Uuid} {name : String} :
    name ∈ (s.check enforceReadOnly state proposed).duplicates taken ↔
      ∃ d, d.name = name ∧ d.unique ∧ d.id ∈ taken ∧
        ∃ value, s.Gives enforceReadOnly state proposed d value := by
  unfold AttributeCheck.duplicates AttributeCheck.accepted AttributeCheck.probes
  simp only [List.mem_map, List.mem_filter, Finding.mem_acceptedValues, Bool.and_eq_true,
    List.contains_iff_mem, SortedSet.contains_iff, hs.accepted_mem_findings,
    Finding.mem_probes_iff]
  refine ⟨?_, ?_⟩
  · rintro ⟨a, ⟨⟨d, v, hgives, rfl⟩, ⟨_, ⟨e, w, hgives', hunique, rfl⟩, hid⟩, htaken⟩, rfl⟩
    obtain rfl := hids e hgives'.1 d hgives.1 hid
    exact ⟨e, rfl, hunique, htaken, v, hgives⟩
  · rintro ⟨d, rfl, hunique, htaken, v, hgives⟩
    exact ⟨_, ⟨⟨d, v, hgives, rfl⟩, ⟨_, ⟨d, v, hgives, hunique, rfl⟩, rfl⟩, htaken⟩, rfl⟩

end Coherent

end Schema

/-! ### Reports -/

lemma sorted_eq_nil_iff {names : List String} :
    ValidationResult.sorted names = [] ↔ names = [] := by
  simp only [List.eq_nil_iff_forall_not_mem, ValidationResult.sorted]
  exact forall_congr' fun name => not_congr SortedSet.mem_ofList

lemma lists_sorted {names : List String} {property : String → Prop}
    (h : ∀ name, name ∈ names ↔ property name) : Lists (ValidationResult.sorted names) property :=
  ⟨(SortedSet.ofList names).ascending, fun name => SortedSet.mem_ofList.trans (h name)⟩

namespace Schema

variable {s : Schema}

/-- A check reports of proposed entries exactly what there is to be reported. -/
theorem classifies_check (hs : s.Built) (hids : s.DistinctIds) (enforceReadOnly : Bool)
    (state : RecordState) (proposed : SortedMap String Json) (taken : SortedSet Uuid) :
    s.Classifies enforceReadOnly state proposed taken
      ((s.check enforceReadOnly state proposed).finish taken) where
  unknown := lists_sorted fun name =>
    Finding.mem_unknownNames.trans hs.coherent.unknown_mem_findings
  missingMandatory := lists_sorted fun name => hs.coherent.mem_missing
  invalid := lists_sorted fun name => by
    rw [Finding.mem_invalidNames]
    simp only [hs.coherent.repeated_mem_findings, hs.coherent.invalid_mem_findings]
    grind
  duplicate := lists_sorted fun name => hs.coherent.mem_duplicates_check hids
  readOnly := lists_sorted fun name => by
    rw [Finding.mem_readOnlyNames]
    simp only [hs.coherent.readOnly_mem_findings]
    grind
  ok := by
    simp only [AttributeCheck.finish, ValidationResult.ofNames, Bool.and_eq_true,
      List.isEmpty_iff, sorted_eq_nil_iff, and_assoc]
  values a := by
    refine Finding.mem_acceptedValues.trans ?_
    simp only [hs.coherent.accepted_mem_findings]
  cleared id := by
    refine Finding.mem_clearedIds.trans ?_
    simp only [hs.coherent.cleared_mem_findings]
    grind

/-- An attribute that is unique, one that must not change and one with a pattern. -/
def sampleSchema : Schema :=
  ⟨.ofList [("badge", ⟨⟨⟨1, by decide⟩, "badge", .integer, false, true, false, none, true⟩, none⟩),
    ("start", ⟨⟨⟨2, by decide⟩, "start", .date, false, false, true, none, true⟩, none⟩),
    ("title", ⟨⟨⟨3, by decide⟩, "title", .text, true, false, false, some "a|b", true⟩,
      CompiledPattern.ofText? "a|b"⟩)]⟩

lemma built_sampleSchema : sampleSchema.Built := by
  have hmade : (ofDefinitions sampleSchema.definitions).toOption = some sampleSchema := by
    decide +kernel
  exact .of_toOption hmade

/-- A badge that is taken, a start that is given twice although it must not change, a title that the
pattern does not accept, and a name that no attribute has. -/
def sampleProposal : SortedMap String Json :=
  .ofList [("Badge", .number (.whole 7 (by decide))), ("start", .null), ("START", .null),
    ("title", .string "ab"), ("shoe", .null)]

theorem classifies_check_sample : sampleSchema.Built ∧ sampleSchema.DistinctIds ∧
    let v := (sampleSchema.check true (.existing ⟨9, by decide⟩) sampleProposal).finish
      (.ofList [⟨1, by decide⟩])
    sampleSchema.Classifies true (.existing ⟨9, by decide⟩) sampleProposal
        (.ofList [⟨1, by decide⟩]) v ∧
      v.result = ⟨false, ["shoe"], [], ["start", "title"], ["badge"], ["start"]⟩ := by
  have hids : sampleSchema.DistinctIds := by decide +kernel
  exact ⟨built_sampleSchema, hids, classifies_check built_sampleSchema hids true _ sampleProposal _,
    by decide +kernel⟩

end Schema

end Provisioning
