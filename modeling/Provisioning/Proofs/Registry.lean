import Provisioning.Proofs.Lowering
import Provisioning.Proofs.Validation

/-!
Schemas that can be made.

A schema is made of a list of definitions, and changes as attributes are defined and retired
(`Schema.Built`). In every schema made that way an attribute stands under the key of its definition
and has its pattern compiled (`Schema.Coherent`), so a name in any case finds the one definition
with that name (`Schema.Coherent.resolve_eq_some_iff`).
-/

namespace Provisioning

/-! ### Preparing definitions -/

lemma CompiledPattern.ofText?_eq_some {text : String} {p : CompiledPattern} :
    ofText? text = some p ↔
      p.source = anchored text ∧ Pattern.ofText? (anchored text) = some p.pattern := by
  obtain ⟨source, pattern⟩ := p
  unfold ofText?
  rw [Option.map_eq_some_iff]
  refine ⟨?_, ?_⟩
  · rintro ⟨q, hq, heq⟩
    obtain ⟨rfl, rfl⟩ := CompiledPattern.mk.inj heq
    exact ⟨rfl, hq⟩
  · rintro ⟨rfl, hpattern⟩
    exact ⟨pattern, hpattern, rfl⟩

/-- A definition can be prepared if it has a name and its pattern compiles. -/
lemma SchemaEntry.exists_ofDefinition_iff {d : AttributeDefinition} :
    (∃ entry, SchemaEntry.ofDefinition d = .ok entry) ↔ Text.isBlankText d.name = false ∧
      ∀ text, d.pattern = some text → (Pattern.ofText? (anchored text)).isSome := by
  unfold ofDefinition CompiledPattern.ofText?
  cases Text.isBlankText d.name with
  | true => simp
  | false =>
    rcases d.pattern with _ | text
    · simp
    · rcases hpattern : Pattern.ofText? (anchored text) with _ | p <;> simp [hpattern]

lemma SchemaEntry.pattern_of_ofDefinition {d : AttributeDefinition} {entry : SchemaEntry}
    (h : SchemaEntry.ofDefinition d = .ok entry) :
    d.pattern.bind CompiledPattern.ofText? = entry.pattern := by
  unfold ofDefinition at h
  split at h
  next => cases h
  next =>
    split at h
    next hnone =>
      obtain rfl := Except.ok.inj h
      rw [hnone]
      rfl
    next text htext =>
      split at h
      next p hp =>
        obtain rfl := Except.ok.inj h
        rw [htext]
        exact hp
      next => cases h

/-- What has been prepared has its pattern compiled, between the anchors. -/
lemma SchemaEntry.exists_compiled {d : AttributeDefinition} {entry : SchemaEntry} {text : String}
    (h : SchemaEntry.ofDefinition d = .ok entry) (htext : d.pattern = some text) :
    ∃ p, CompiledPattern.ofText? text = some ⟨anchored text, p⟩ := by
  obtain ⟨-, hcompiles⟩ := SchemaEntry.exists_ofDefinition_iff.mp ⟨entry, h⟩
  obtain ⟨p, hp⟩ := Option.isSome_iff_exists.mp (hcompiles text htext)
  exact ⟨p, CompiledPattern.ofText?_eq_some.mpr ⟨rfl, hp⟩⟩

namespace Schema

/-! ### Schemas -/

/-- The schemas that can be made. -/
inductive Built : Schema → Prop
  | ofDefinitions {ds : List AttributeDefinition} {s : Schema} (h : ofDefinitions ds = .ok s) :
    Built s
  | define {s s' : Schema} {d d' : AttributeDefinition} (hs : Built s)
    (h : s.define d = .ok (d', s')) : Built s'
  | retire {s s' : Schema} {name : String} {d : AttributeDefinition} (hs : Built s)
    (h : s.retire name = .ok (d, s')) : Built s'

/-- Every entry stands where its definition belongs and is what the definition makes it. -/
structure Coherent (s : Schema) : Prop where
  keyed : ∀ key entry, s.entries.get? key = some entry → entry.definition.key = key
  prepared : ∀ key entry, s.entries.get? key = some entry →
    SchemaEntry.ofDefinition entry.definition = .ok entry

/-! ### Changes -/

section Changes

variable {s s' : Schema} {d d' : AttributeDefinition} {entry : SchemaEntry}

/-- A definition as it is stored: with the identifier of the one that it takes the place of. -/
def placed (s : Schema) (d : AttributeDefinition) : AttributeDefinition :=
  match s.entries.get? d.key with
  | some old => { d with id := old.definition.id }
  | none => d

@[simp] lemma key_placed (s : Schema) (d : AttributeDefinition) : (s.placed d).key = d.key := by
  unfold placed
  split <;> rfl

/-- An attribute is defined if it is dynamic, as is the one that it takes the place of, if it has
the name of no built-in attribute, and if its definition can be prepared. Its entry is put into its
place. -/
lemma define_eq_ok_iff :
    s.define d = .ok (d', s') ↔ d.dynamic ∧
      (∀ old, s.entries.get? d.key = some old → old.definition.dynamic) ∧
      (s.entries.get? d.key = none → BuiltInField.find? d.name = none) ∧
      ∃ entry, SchemaEntry.ofDefinition (s.placed d) = .ok entry ∧ d' = entry.definition ∧
        s' = ⟨s.entries.insert d.key entry⟩ := by
  have hput : ∀ e : AttributeDefinition, (SchemaEntry.ofDefinition e).map (fun entry =>
      (entry.definition, (⟨s.entries.insert d.key entry⟩ : Schema))) = .ok (d', s') ↔
      ∃ entry, SchemaEntry.ofDefinition e = .ok entry ∧ d' = entry.definition ∧
        s' = ⟨s.entries.insert d.key entry⟩ := by
    intro e
    simp only [map_eq_ok, Prod.mk.injEq, eq_comm (b := d'), eq_comm (b := s')]
  unfold define placed
  dsimp only
  by_cases hdynamic : d.dynamic = true
  · rcases s.entries.get? d.key with _ | old
    · rcases BuiltInField.find? d.name with _ | f
      · simpa [hdynamic] using hput d
      · simp [hdynamic]
    · by_cases hold : old.definition.dynamic = true
      · rw [if_neg (by simp [hdynamic])]
        dsimp only
        rw [if_pos hold]
        exact (hput { d with id := old.definition.id }).trans (by simp [hdynamic, hold])
      · simp [hdynamic, hold]
  · simp [hdynamic]

/-- A dynamic attribute that is defined is retired by removing its entry. -/
lemma retire_eq_ok_iff {name : String} :
    s.retire name = .ok (d, s') ↔ s.resolve name = some d ∧ d.dynamic ∧
      s' = ⟨s.entries.erase (Text.lower name)⟩ := by
  unfold retire resolve
  rcases s.entry? name with _ | old
  · simp
  · dsimp only
    by_cases hold : old.definition.dynamic = true
    · rw [if_pos hold]
      refine ⟨fun h => ?_, ?_⟩
      · obtain ⟨rfl, rfl⟩ := Prod.mk.inj (Except.ok.inj h)
        exact ⟨rfl, hold, rfl⟩
      · rintro ⟨hd, -, rfl⟩
        rw [Option.some.inj hd]
    · rw [if_neg hold]
      refine ⟨fun h => (by cases h), ?_⟩
      rintro ⟨hd, hdynamic, -⟩
      exact absurd (Option.some.inj hd ▸ hdynamic) hold

lemma Coherent.insert (hs : s.Coherent) (hentry : SchemaEntry.ofDefinition d = .ok entry) :
    (⟨s.entries.insert d.key entry⟩ : Schema).Coherent := by
  have hdefinition := SchemaEntry.definition_of_ofDefinition hentry
  have hcases : ∀ key e, (s.entries.insert d.key entry).get? key = some e →
      (key = d.key ∧ e = entry) ∨ s.entries.get? key = some e := by
    intro key e he
    rw [SortedMap.get?_insert] at he
    split at he
    next hkey => exact Or.inl ⟨hkey, (Option.some.inj he).symm⟩
    next => exact Or.inr he
  refine ⟨fun key e he => ?_, fun key e he => ?_⟩
  · rcases hcases key e he with ⟨rfl, rfl⟩ | hold
    · rw [hdefinition]
    · exact hs.keyed key e hold
  · rcases hcases key e he with ⟨rfl, rfl⟩ | hold
    · rw [hdefinition, hentry]
    · exact hs.prepared key e hold

lemma Coherent.erase (hs : s.Coherent) (key : String) :
    (⟨s.entries.erase key⟩ : Schema).Coherent := by
  have hmem : ∀ k e, (s.entries.erase key).get? k = some e → s.entries.get? k = some e := by
    intro k e he
    rw [SortedMap.get?_erase] at he
    split at he
    next => cases he
    next => exact he
  exact ⟨fun k e he => hs.keyed k e (hmem k e he), fun k e he => hs.prepared k e (hmem k e he)⟩

lemma coherent_ofDefinitions {ds : List AttributeDefinition} (h : ofDefinitions ds = .ok s) :
    s.Coherent := by
  refine ⟨fun key e he => ?_, fun key e he => ?_⟩
  · obtain ⟨d, -, hkey, hd⟩ := (get?_entries_ofDefinitions h key e).mp he
    rw [SchemaEntry.definition_of_ofDefinition hd, hkey]
  · obtain ⟨d, -, -, hd⟩ := (get?_entries_ofDefinitions h key e).mp he
    rw [SchemaEntry.definition_of_ofDefinition hd, hd]

lemma Coherent.define (hs : s.Coherent) (h : s.define d = .ok (d', s')) : s'.Coherent := by
  obtain ⟨-, -, -, entry, hentry, -, rfl⟩ := define_eq_ok_iff.mp h
  exact s.key_placed d ▸ hs.insert hentry

lemma Coherent.retire {name : String} (hs : s.Coherent) (h : s.retire name = .ok (d, s')) :
    s'.Coherent := by
  obtain ⟨-, -, rfl⟩ := retire_eq_ok_iff.mp h
  exact hs.erase _

/-- Every schema that can be made is coherent. -/
theorem Built.coherent (h : s.Built) : s.Coherent := by
  induction h with
  | ofDefinitions h => exact coherent_ofDefinitions h
  | define _ h ih => exact ih.define h
  | retire _ h ih => exact ih.retire h

end Changes

/-- A schema that is made of definitions when it is computed is one that can be made. -/
lemma Built.of_toOption {s : Schema} {ds : List AttributeDefinition}
    (h : (Schema.ofDefinitions ds).toOption = some s) : s.Built := by
  rcases hs : Schema.ofDefinitions ds with _ | s'
  · rw [hs] at h
    cases h
  · rw [hs] at h
    obtain rfl := Option.some.inj h
    exact .ofDefinitions hs

/-! ### Looking -/

namespace Coherent

variable {s : Schema} (hs : s.Coherent) {d e : AttributeDefinition} {name : String}

include hs

lemma mem_definitions_iff :
    d ∈ s.definitions ↔ ∃ entry, s.entries.get? d.key = some entry ∧ entry.definition = d := by
  unfold definitions
  rw [List.mem_map]
  refine ⟨?_, ?_⟩
  · rintro ⟨entry, hentry, rfl⟩
    obtain ⟨key, hkey⟩ := SortedMap.mem_values_iff.mp hentry
    exact ⟨entry, hs.keyed key entry hkey ▸ hkey, rfl⟩
  · rintro ⟨entry, hentry, rfl⟩
    exact ⟨entry, SortedMap.mem_values_iff.mpr ⟨_, hentry⟩, rfl⟩

/-- A name finds the definition that has it in lower case. -/
lemma resolve_eq_some_iff :
    s.resolve name = some d ↔ d ∈ s.definitions ∧ d.key = Text.lower name := by
  unfold resolve entry?
  rw [Option.map_eq_some_iff, hs.mem_definitions_iff]
  refine ⟨?_, ?_⟩
  · rintro ⟨entry, hentry, rfl⟩
    have hkey := hs.keyed _ entry hentry
    exact ⟨⟨entry, hkey ▸ hentry, rfl⟩, hkey⟩
  · rintro ⟨⟨entry, hentry, rfl⟩, hkey⟩
    exact ⟨entry, hkey ▸ hentry, rfl⟩

lemma resolve_name (hd : d ∈ s.definitions) : s.resolve d.name = some d :=
  hs.resolve_eq_some_iff.mpr ⟨hd, rfl⟩

/-- No two definitions have one key. -/
lemma eq_of_key_eq (hd : d ∈ s.definitions) (he : e ∈ s.definitions) (h : d.key = e.key) :
    d = e := by
  obtain ⟨entry, hentry, rfl⟩ := hs.mem_definitions_iff.mp hd
  obtain ⟨entry', hentry', rfl⟩ := hs.mem_definitions_iff.mp he
  rw [h, hentry'] at hentry
  rw [Option.some.inj hentry]

lemma keyOf?_eq_some_iff (hd : d ∈ s.definitions) :
    s.keyOf? name = some d.key ↔ Text.lower name = d.key := by
  unfold keyOf?
  rw [Option.map_eq_some_iff]
  refine ⟨?_, fun h => ⟨d, hs.resolve_eq_some_iff.mpr ⟨hd, h.symm⟩, rfl⟩⟩
  rintro ⟨e, he, hkey⟩
  rw [← hkey, (hs.resolve_eq_some_iff.mp he).2]

/-- The pattern of an attribute is that of its definition. -/
lemma pattern?_key (hd : d ∈ s.definitions) :
    s.pattern? d.key = d.pattern.bind CompiledPattern.ofText? := by
  obtain ⟨entry, hentry, hdef⟩ := hs.mem_definitions_iff.mp hd
  have hprepared := hs.prepared _ entry hentry
  have hlower : Text.lower d.key = d.key := Text.lower_lower d.name
  unfold pattern? entry?
  rw [hlower, hentry, Option.bind_some, ← SchemaEntry.pattern_of_ofDefinition hprepared, hdef]

end Coherent

/-- Every definition of which a schema is made has an entry. -/
lemma exists_entry_of_foldlM {ds : List AttributeDefinition} {s s' : Schema}
    (h : ds.foldlM add s = .ok s') : ∀ d ∈ ds, ∃ entry, SchemaEntry.ofDefinition d = .ok entry := by
  induction ds generalizing s with
  | nil =>
    intro d hd
    cases hd
  | cons d rest ih =>
    rw [List.foldlM_cons] at h
    obtain ⟨s₁, hadd, h⟩ := bind_eq_ok.mp h
    obtain ⟨-, entry, hentry, -⟩ := add_eq_ok hadd
    exact List.forall_mem_cons.mpr ⟨⟨entry, hentry⟩, ih h⟩

/-- The definitions of a schema are those of which it is made. -/
lemma mem_definitions_ofDefinitions {ds : List AttributeDefinition} {s : Schema}
    (h : ofDefinitions ds = .ok s) {d : AttributeDefinition} : d ∈ s.definitions ↔ d ∈ ds := by
  rw [(coherent_ofDefinitions h).mem_definitions_iff]
  simp only [get?_entries_ofDefinitions h]
  refine ⟨?_, fun hd => ?_⟩
  · rintro ⟨entry, ⟨e, he, -, hentry⟩, rfl⟩
    rw [SchemaEntry.definition_of_ofDefinition hentry]
    exact he
  · obtain ⟨entry, hentry⟩ := exists_entry_of_foldlM h d hd
    exact ⟨entry, ⟨d, hd, rfl, hentry⟩, SchemaEntry.definition_of_ofDefinition hentry⟩

end Schema

end Provisioning
