import Provisioning.Proofs.Registry

/-!
Schemas that start with the built-in attributes and are changed from then on.

Attributes are defined and retired one after the other, with whatever arguments, and what is refused
changes nothing (`Schema.after`). In every schema made that way the built-in attributes are as they
were, every other attribute is dynamic, and patterns are compiled (`Schema.Rooted`). From these
facts follows what each change does and when it is refused, that a new attribute can be retired as
if it had never been, and that the definitions alone say what the schema is (`Schema.Maintained`).

A name is that of a built-in attribute if it is so in any case, but the table of built-in attributes
only knows the case of ASCII letters. As their names are ASCII and always defined, the difference
shows nowhere (`Schema.Rooted.find?_eq_none`).
-/

namespace Provisioning

/-! ### Names in ASCII -/

namespace Text

lemma lowerChar_of_ascii {c : Char} (h : c.toNat < 128) (before after : List Char) :
    lowerChar before c after = [c.toLower] := by
  have htable : ∀ n < 128, Char.ofNat (lowerPoint n) = (Char.ofNat n).toLower := by decide +kernel
  have hne : ∀ e : Char, 128 ≤ e.toNat → c ≠ e := fun e he heq => by
    rw [heq] at h
    omega
  unfold lowerChar
  rw [if_neg (hne _ (by decide)), if_neg (hne _ (by decide)), htable _ h, Char.ofNat_toNat]

/-- Below 128, lower case is that of the ASCII letters. -/
lemma lower_of_ascii {s : String} (h : ∀ c ∈ s.toList, c.toNat < 128) : lower s = asciiLower s := by
  have hchars : ∀ (before cs : List Char), (∀ c ∈ cs, c.toNat < 128) →
      lowerAfter before cs = cs.map Char.toLower := by
    intro before cs hcs
    induction cs generalizing before with
    | nil => rfl
    | cons c rest ih =>
      obtain ⟨hc, hrest⟩ := List.forall_mem_cons.mp hcs
      rw [lowerAfter, lowerChar_of_ascii hc, ih _ hrest]
      rfl
  unfold lower asciiLower
  rw [hchars [] s.toList h]

/-- What is ASCII in lower case by the ASCII letters was ASCII before. -/
lemma ascii_of_asciiLower {s : String} (h : ∀ c ∈ (asciiLower s).toList, c.toNat < 128) :
    ∀ c ∈ s.toList, c.toNat < 128 := by
  intro c hc
  have hlower : c.toLower.toNat < 128 := h _ (by
    unfold asciiLower
    rw [String.toList_ofList]
    exact List.mem_map_of_mem hc)
  unfold Char.toLower at hlower
  split at hlower
  next hletter => exact Nat.lt_of_le_of_lt (UInt32.le_iff_toNat_le.mp hletter.2) (by decide)
  next => exact hlower

end Text

namespace BuiltInField

/-- The names of built-in attributes are ASCII and in lower case. -/
lemma names_table :
    ∀ f ∈ all, (∀ c ∈ f.name.toList, c.toNat < 128) ∧ Text.asciiLower f.name = f.name := by
  have htable : ∀ f ∈ all, f.name.toList.all (·.toNat < 128) ∧
      Text.asciiLower f.name = f.name := by decide +kernel
  intro f hf
  obtain ⟨hascii, hlower⟩ := htable f hf
  exact ⟨by simpa using hascii, hlower⟩

@[simp]
lemma name_definition (f : BuiltInField) : f.definition.name = f.name := rfl

lemma key_definition {f : BuiltInField} (hf : f ∈ all) : f.definition.key = f.name := by
  obtain ⟨hascii, hlower⟩ := names_table f hf
  exact (Text.lower_of_ascii hascii).trans hlower

/-- A name that the table of built-in attributes knows has the key of a built-in attribute. -/
lemma lower_of_find? {name : String} {f : BuiltInField} (h : find? name = some f) :
    f ∈ all ∧ Text.lower name = f.definition.key := by
  unfold find? at h
  have hf := List.mem_of_find?_eq_some h
  have hname : f.name = Text.asciiLower name := by simpa using List.find?_some h
  have hascii := Text.ascii_of_asciiLower fun c hc => (names_table f hf).1 c (hname ▸ hc)
  exact ⟨hf, by rw [Text.lower_of_ascii hascii, key_definition hf, hname]⟩

end BuiltInField

namespace Schema

variable {s s' : Schema} {d d' e : AttributeDefinition} {name : String}

lemma exists_foldlM {ds : List AttributeDefinition} (hkeys : (ds.map (·.key)).Nodup)
    (hnew : ∀ d ∈ ds, s.entries.get? d.key = none)
    (hprepared : ∀ d ∈ ds, ∃ entry, SchemaEntry.ofDefinition d = .ok entry) :
    ∃ s', ds.foldlM add s = .ok s' := by
  induction ds generalizing s with
  | nil => exact ⟨s, rfl⟩
  | cons d rest ih =>
    obtain ⟨hd, hrest⟩ := List.forall_mem_cons.mp hprepared
    obtain ⟨hdnew, hrestnew⟩ := List.forall_mem_cons.mp hnew
    obtain ⟨hfirst, hkeys⟩ := List.nodup_cons.mp hkeys
    obtain ⟨entry, hentry⟩ := hd
    have hadd : s.add d = .ok ⟨s.entries.insert d.key entry⟩ := by
      unfold add
      rw [SortedMap.contains, hdnew, if_neg (by simp), hentry]
      rfl
    have hstill : ∀ e ∈ rest, (s.entries.insert d.key entry).get? e.key = none := fun e he => by
      have hne : e.key ≠ d.key := fun heq => hfirst (List.mem_map.mpr ⟨e, he, heq⟩)
      rw [SortedMap.get?_insert_of_ne _ _ hne]
      exact hrestnew e he
    obtain ⟨s', hs'⟩ := ih (s := ⟨s.entries.insert d.key entry⟩) hkeys hstill hrest
    exact ⟨s', by rw [List.foldlM_cons, hadd]; exact hs'⟩

/-- Definitions that have different keys and can be prepared make a schema. -/
lemma exists_ofDefinitions {ds : List AttributeDefinition} (hkeys : (ds.map (·.key)).Nodup)
    (hprepared : ∀ d ∈ ds, ∃ entry, SchemaEntry.ofDefinition d = .ok entry) :
    ∃ s, ofDefinitions ds = .ok s :=
  exists_foldlM hkeys (fun _ _ => rfl) hprepared

/-! ### Order, and the definitions alone -/

namespace Coherent

variable (hs : s.Coherent)

include hs

/-- The definitions are listed by their keys. -/
lemma ascending_definitions : s.definitions.Pairwise fun d e => compare d.key e.key = .lt := by
  have hkey : ∀ e ∈ s.entries.toList, e.2.definition.key = e.1 := fun e he =>
    hs.keyed e.1 e.2 (SortedMap.get?_eq_some_iff.mpr he)
  unfold definitions SortedMap.values
  rw [List.map_map, List.pairwise_map]
  refine s.entries.ascending.imp_of_mem fun ha hb hlt => ?_
  rw [Function.comp, Function.comp, hkey _ ha, hkey _ hb]
  exact hlt

lemma nodup_keys : (s.definitions.map (·.key)).Nodup := by
  rw [List.Nodup, List.pairwise_map]
  refine hs.ascending_definitions.imp fun hlt heq => ?_
  rw [heq] at hlt
  simp at hlt

/-- The definitions alone make the schema. -/
lemma ofDefinitions_definitions : ofDefinitions s.definitions = .ok s := by
  have hprepared : ∀ d ∈ s.definitions, ∃ entry, SchemaEntry.ofDefinition d = .ok entry := by
    intro d hd
    obtain ⟨entry, hentry, rfl⟩ := hs.mem_definitions_iff.mp hd
    exact ⟨entry, hs.prepared _ entry hentry⟩
  obtain ⟨s', hs'⟩ := exists_ofDefinitions hs.nodup_keys hprepared
  have hsame : ∀ key, s'.entries.get? key = s.entries.get? key := by
    intro key
    refine Option.ext fun entry => ?_
    rw [get?_entries_ofDefinitions hs']
    refine ⟨?_, fun hentry => ?_⟩
    · rintro ⟨d, hd, rfl, hd'⟩
      obtain ⟨entry', hentry', rfl⟩ := hs.mem_definitions_iff.mp hd
      rw [hs.prepared _ entry' hentry'] at hd'
      rw [← Except.ok.inj hd']
      exact hentry'
    · have hkey := hs.keyed key entry hentry
      exact ⟨entry.definition, hs.mem_definitions_iff.mpr ⟨entry, hkey ▸ hentry, rfl⟩, hkey,
        hs.prepared key entry hentry⟩
  have hentries : s'.entries = s.entries := SortedMap.ext_get? hsame
  rw [hs']
  exact congrArg Except.ok (congrArg Schema.mk hentries)

end Coherent

/-! ### Changes -/

/-- A change of the attributes that users can have. -/
inductive Change where
  | define (d : AttributeDefinition)
  | retire (name : String)

/-- Tries a change. -/
def attempt (s : Schema) : Change → Except SchemaError (AttributeDefinition × Schema)
  | .define d => s.define d
  | .retire name => s.retire name

/-- The schema after a change; one that is refused leaves it as it is. -/
def after (s : Schema) (c : Change) : Schema :=
  match s.attempt c with
  | .ok (_, s') => s'
  | .error _ => s

/-- The schema after changes one after the other. -/
def afterAll (s : Schema) (cs : List Change) : Schema := cs.foldl after s

lemma after_of_ok {c : Change} (h : s.attempt c = .ok (d, s')) : s.after c = s' := by
  unfold after
  rw [h]

lemma after_of_error {c : Change} {e : SchemaError} (h : s.attempt c = .error e) :
    s.after c = s := by
  unfold after
  rw [h]

/-- A property of a schema that every successful change keeps is kept by all changes. -/
lemma afterAll_of_attempt {motive : Schema → Prop} (hs : motive s)
    (hstep : ∀ s c d s', motive s → s.attempt c = .ok (d, s') → motive s') (cs : List Change) :
    motive (s.afterAll cs) := by
  induction cs generalizing s with
  | nil => exact hs
  | cons c rest ih =>
    refine ih (s := s.after c) ?_
    unfold after
    split
    next d s' h => exact hstep s c d s' hs h
    next => exact hs

lemma resolve_insert {key : String} {entry : SchemaEntry} :
    (⟨s.entries.insert key entry⟩ : Schema).resolve name =
      if Text.lower name = key then some entry.definition else s.resolve name := by
  unfold resolve entry?
  rw [SortedMap.get?_insert]
  split <;> rfl

lemma resolve_erase {key : String} :
    (⟨s.entries.erase key⟩ : Schema).resolve name =
      if Text.lower name = key then none else s.resolve name := by
  unfold resolve entry?
  rw [SortedMap.get?_erase]
  split <;> rfl

lemma resolve_congr {name' : String} (h : Text.lower name = Text.lower name') :
    s.resolve name = s.resolve name' := by
  unfold resolve entry?
  rw [h]

/-- What is stored is the new definition, with the identifier of the old one if there is one. -/
lemma placed_eq (s : Schema) (d : AttributeDefinition) :
    s.placed d = match s.resolve d.name with
      | some old => { d with id := old.id }
      | none => d := by
  have hget : s.entries.get? d.key = s.entry? d.name := rfl
  unfold placed resolve
  rw [hget]
  cases s.entry? d.name <;> rfl

lemma dynamic_placed (s : Schema) (d : AttributeDefinition) :
    (s.placed d).dynamic = d.dynamic := by
  unfold placed
  split <;> rfl

/-- What a successful definition leaves. -/
lemma define_spec (h : s.define d = .ok (d', s')) :
    d' = s.placed d ∧ d'.dynamic ∧ (∀ old, s.resolve d.name = some old → old.dynamic) ∧
      ∀ name, s'.resolve name = if Text.lower name = d.key then some d' else s.resolve name := by
  obtain ⟨hdynamic, hold, -, entry, hentry, rfl, rfl⟩ := define_eq_ok_iff.mp h
  have hplaced := SchemaEntry.definition_of_ofDefinition hentry
  refine ⟨hplaced, ?_, ?_, fun name => resolve_insert⟩
  · rw [hplaced, dynamic_placed]
    exact hdynamic
  · intro old hresolve
    obtain ⟨e, he, rfl⟩ := Option.map_eq_some_iff.mp hresolve
    exact hold e he

namespace Coherent

variable (hs : s.Coherent)

include hs

lemma mem_definitions_iff_resolve : d ∈ s.definitions ↔ s.resolve d.name = some d :=
  ⟨hs.resolve_name, fun h => (hs.resolve_eq_some_iff.mp h).1⟩

/-- What is defined takes the place of what has its key. -/
lemma mem_definitions_define (h : s.define d = .ok (d', s')) :
    e ∈ s'.definitions ↔ e = d' ∨ e ∈ s.definitions ∧ e.key ≠ d.key := by
  obtain ⟨hd', -, -, hresolve⟩ := define_spec h
  have hkey : d'.key = d.key := hd' ▸ s.key_placed d
  rw [(hs.define h).mem_definitions_iff_resolve, hs.mem_definitions_iff_resolve, hresolve]
  split
  next hsame =>
    have hsame' : e.key = d.key := hsame
    simp [hsame', eq_comm]
  next hother =>
    have hother' : e.key ≠ d.key := hother
    have hne : e ≠ d' := fun heq => hother' (heq ▸ hkey)
    simp [hother', hne]

lemma mem_definitions_retire (h : s.retire name = .ok (d, s')) :
    e ∈ s'.definitions ↔ e ∈ s.definitions ∧ e.key ≠ Text.lower name := by
  rw [(hs.retire h).mem_definitions_iff_resolve, hs.mem_definitions_iff_resolve]
  obtain ⟨-, -, rfl⟩ := retire_eq_ok_iff.mp h
  rw [resolve_erase]
  split
  next hsame =>
    have hsame' : e.key = Text.lower name := hsame
    simp [hsame']
  next hother =>
    have hother' : e.key ≠ Text.lower name := hother
    simp [hother']

end Coherent

/-! ### The built-in attributes -/

lemma compiles_builtIn : ∀ text ∈ BuiltInField.all.filterMap (·.pattern),
    (Pattern.ofText? (anchored text)).isSome := by
  decide +kernel

/-- There is a schema of the built-in attributes. -/
lemma exists_builtIn : ∃ s, builtIn = .ok s := by
  have hnames : (BuiltInField.all.map (·.name)).Nodup := by decide +kernel
  have hkeys : BuiltInField.definitions.map (·.key) = BuiltInField.all.map (·.name) := by
    rw [BuiltInField.definitions, List.map_map]
    exact List.map_congr_left fun f hf => BuiltInField.key_definition hf
  have hblank : ∀ f ∈ BuiltInField.all, Text.isBlankText f.name = false := by decide +kernel
  refine exists_ofDefinitions (hkeys ▸ hnames) fun d hd => ?_
  obtain ⟨f, hf, rfl⟩ := List.mem_map.mp hd
  exact SchemaEntry.exists_ofDefinition_iff.mpr ⟨hblank f hf, fun text htext =>
    compiles_builtIn text (List.mem_filterMap.mpr ⟨f, hf, htext⟩)⟩

/-- The built-in attributes are as they were, and every other attribute is dynamic. -/
structure Rooted (s : Schema) : Prop where
  coherent : s.Coherent
  builtIn : ∀ f ∈ BuiltInField.all, s.resolve f.name = some f.definition
  others : ∀ d ∈ s.definitions, d ∈ BuiltInField.definitions ∨ d.dynamic

lemma rooted_builtIn (h : builtIn = .ok s) : s.Rooted := by
  unfold Schema.builtIn at h
  have hs : s.Coherent := coherent_ofDefinitions h
  have hmem : ∀ d, d ∈ s.definitions ↔ d ∈ BuiltInField.definitions := fun d =>
    mem_definitions_ofDefinitions h
  refine ⟨hs, fun f hf => ?_, fun d hd => Or.inl ((hmem d).mp hd)⟩
  have hf : f.definition ∈ s.definitions := (hmem _).mpr (List.mem_map_of_mem hf)
  rw [← f.name_definition]
  exact hs.resolve_name hf

namespace Rooted

variable (hs : s.Rooted)

include hs

/-- A dynamic attribute has the key of no built-in one. -/
lemma key_ne {f : BuiltInField} (hf : f ∈ BuiltInField.all)
    (h : ∀ old, s.resolve name = some old → old.dynamic) : Text.lower f.name ≠ Text.lower name := by
  intro hkey
  have hresolve := hs.builtIn f hf
  rw [resolve_congr hkey] at hresolve
  cases h f.definition hresolve

lemma define (h : s.define d = .ok (d', s')) : s'.Rooted := by
  have hcoherent := hs.coherent.define h
  obtain ⟨-, hdynamic, hold, hresolve⟩ := define_spec h
  refine ⟨hcoherent, fun f hf => ?_, fun e he => ?_⟩
  · have hne : Text.lower f.name ≠ d.key := hs.key_ne hf hold
    rw [hresolve, if_neg hne]
    exact hs.builtIn f hf
  · rcases (hs.coherent.mem_definitions_define h).mp he with rfl | ⟨hmem, -⟩
    · exact Or.inr hdynamic
    · exact hs.others e hmem

lemma retire (h : s.retire name = .ok (d, s')) : s'.Rooted := by
  refine ⟨hs.coherent.retire h, fun f hf => ?_, fun e he =>
    hs.others e ((hs.coherent.mem_definitions_retire h).mp he).1⟩
  obtain ⟨hd, hdynamic, rfl⟩ := retire_eq_ok_iff.mp h
  have hold : ∀ old, s.resolve name = some old → old.dynamic := fun old hold =>
    Option.some.inj (hd.symm.trans hold) ▸ hdynamic
  rw [resolve_erase, if_neg (hs.key_ne hf hold)]
  exact hs.builtIn f hf

lemma afterAll (cs : List Change) : (s.afterAll cs).Rooted :=
  afterAll_of_attempt hs (fun _ c _ _ hs h => by
    cases c with
    | define d => exact hs.define h
    | retire name => exact hs.retire h) cs

/-- Where no attribute has a name, the table of built-in ones does not know it either. -/
lemma find?_eq_none (h : s.resolve name = none) : BuiltInField.find? name = none := by
  rcases hfind : BuiltInField.find? name with _ | f
  · rfl
  · obtain ⟨hf, hkey⟩ := BuiltInField.lower_of_find? hfind
    have hsame : Text.lower name = Text.lower f.name := hkey
    rw [resolve_congr hsame, hs.builtIn f hf] at h
    cases h

/-- An attribute is dynamic if it is not built in. -/
lemma dynamic_iff (hd : d ∈ s.definitions) : d.dynamic ↔ d ∉ BuiltInField.definitions := by
  refine ⟨fun hdynamic hmem => ?_, fun hnot => (hs.others d hd).resolve_left hnot⟩
  obtain ⟨f, -, rfl⟩ := List.mem_map.mp hmem
  cases hdynamic

/-- An attribute can be defined if it is dynamic, has a name that is not built in, and has a
pattern that compiles, if any. -/
lemma exists_define_iff : (∃ r, s.define d = .ok r) ↔ d.dynamic ∧
    (∀ f ∈ BuiltInField.all, f.definition.key ≠ d.key) ∧ Text.isBlankText d.name = false ∧
      ∀ text, d.pattern = some text → (Pattern.ofText? (anchored text)).isSome := by
  have hplaced : (∃ entry, SchemaEntry.ofDefinition (s.placed d) = .ok entry) ↔
      Text.isBlankText d.name = false ∧
        ∀ text, d.pattern = some text → (Pattern.ofText? (anchored text)).isSome := by
    rw [SchemaEntry.exists_ofDefinition_iff]
    unfold placed
    split <;> rfl
  refine ⟨?_, ?_⟩
  · rintro ⟨⟨d', s'⟩, h⟩
    obtain ⟨-, -, hold, -⟩ := define_spec h
    obtain ⟨hdynamic, -, -, entry, hentry, -, -⟩ := define_eq_ok_iff.mp h
    exact ⟨hdynamic, fun f hf => hs.key_ne hf hold, hplaced.mp ⟨entry, hentry⟩⟩
  · rintro ⟨hdynamic, hkeys, hgood⟩
    obtain ⟨entry, hentry⟩ := hplaced.mpr hgood
    refine ⟨_, define_eq_ok_iff.mpr ⟨hdynamic, fun old hold => ?_, fun hnone => ?_, entry, hentry,
      rfl, rfl⟩⟩
    · have hresolve : s.resolve d.name = some old.definition :=
        Option.map_eq_some_iff.mpr ⟨old, hold, rfl⟩
      obtain ⟨hmem, hkey⟩ := hs.coherent.resolve_eq_some_iff.mp hresolve
      refine (hs.dynamic_iff hmem).mpr fun hbuiltIn => ?_
      obtain ⟨f, hf, heq⟩ := List.mem_map.mp hbuiltIn
      exact hkeys f hf ((congrArg AttributeDefinition.key heq).trans hkey)
    · exact hs.find?_eq_none (Option.map_eq_none_iff.mpr hnone)

end Rooted

/-! ### What changes do -/

/-- What holds of a schema between changes, and what every change does to it. -/
structure Maintained (s : Schema) : Prop where
  /-- Every built-in attribute is there, with the definition that it had. -/
  builtIn : ∀ f ∈ BuiltInField.all, s.resolve f.name = some f.definition
  /-- Every other attribute is dynamic and has a name. -/
  others : ∀ d ∈ s.definitions,
    d ∈ BuiltInField.definitions ∨ d.dynamic ∧ Text.isBlankText d.name = false
  /-- Attributes stand under their names in lower case. -/
  keyed : ∀ key entry, s.entries.get? key = some entry → key = Text.lower entry.definition.name
  /-- An attribute has a compiled pattern if its definition has a pattern, and then it is that
  pattern between its anchors. -/
  compiled : ∀ key entry, s.entries.get? key = some entry →
    (entry.pattern.isSome ↔ entry.definition.pattern.isSome) ∧
      ∀ p text, entry.pattern = some p → entry.definition.pattern = some text →
        p.source = anchored text ∧ Pattern.ofText? (anchored text) = some p.pattern
  /-- Definitions are listed by their keys. -/
  ascending : s.definitions.Pairwise fun d e => compare d.key e.key = .lt
  /-- A change that is refused leaves the schema as it is. -/
  refused : ∀ c e, s.attempt c = .error e → s.after c = s
  /-- What can be defined. -/
  definable : ∀ d, (∃ r, s.define d = .ok r) ↔ d.dynamic ∧
    (∀ f ∈ BuiltInField.all, f.definition.key ≠ d.key) ∧ Text.isBlankText d.name = false ∧
      ∀ text, d.pattern = some text → (Pattern.ofText? (anchored text)).isSome
  /-- An attribute that is defined has the identifier of the one that it replaces, and all else of
  the new definition; no other entry changes. -/
  defined : ∀ d d' s', s.define d = .ok (d', s') →
    (d' = match s.resolve d.name with
      | some old => { d with id := old.id }
      | none => d) ∧ s'.resolve d.name = some d' ∧ s.after (.define d) = s' ∧
      ∀ key, key ≠ d.key → s'.entries.get? key = s.entries.get? key
  /-- What can be retired. -/
  retirable : ∀ name, (∃ r, s.retire name = .ok r) ↔
    ∃ d ∈ s.definitions, d.key = Text.lower name ∧ d ∉ BuiltInField.definitions
  /-- An attribute that is retired is gone; no other entry changes. -/
  retired : ∀ name d s', s.retire name = .ok (d, s') →
    s.resolve name = some d ∧ s'.resolve name = none ∧ s.after (.retire name) = s' ∧
      ∀ key, key ≠ Text.lower name → s'.entries.get? key = s.entries.get? key
  /-- Retiring a new attribute, its name in any case, brings back what was there before. -/
  undone : ∀ d d' s' name, s.resolve d.name = none → s.define d = .ok (d', s') →
    Text.lower name = Text.lower d.name → s'.retire name = .ok (d', s)
  /-- The definitions alone make the schema. -/
  rebuilt : ofDefinitions s.definitions = .ok s

namespace Rooted

variable (hs : s.Rooted)

include hs

lemma compiled {key : String} {entry : SchemaEntry} (h : s.entries.get? key = some entry) :
    (entry.pattern.isSome ↔ entry.definition.pattern.isSome) ∧
      ∀ p text, entry.pattern = some p → entry.definition.pattern = some text →
        p.source = anchored text ∧ Pattern.ofText? (anchored text) = some p.pattern := by
  have hprepared := hs.coherent.prepared key entry h
  rw [← SchemaEntry.pattern_of_ofDefinition hprepared]
  rcases htext : entry.definition.pattern with _ | text
  · simp
  · obtain ⟨p, hcompiled⟩ := SchemaEntry.exists_compiled hprepared htext
    rw [Option.bind_some, hcompiled]
    refine ⟨by simp, ?_⟩
    rintro q text' hq htext'
    obtain rfl := Option.some.inj htext'
    exact CompiledPattern.ofText?_eq_some.mp (hcompiled.trans hq)

omit hs in
lemma undone (hnew : s.resolve d.name = none) (h : s.define d = .ok (d', s'))
    (hname : Text.lower name = Text.lower d.name) : s'.retire name = .ok (d', s) := by
  obtain ⟨-, hdynamic, -, hresolve⟩ := define_spec h
  obtain ⟨-, -, -, entry, -, -, rfl⟩ := define_eq_ok_iff.mp h
  have hkey : Text.lower name = d.key := hname
  refine retire_eq_ok_iff.mpr ⟨by rw [hresolve, if_pos hkey], hdynamic, ?_⟩
  have hentries : s.entries = (s.entries.insert d.key entry).erase (Text.lower name) := by
    refine SortedMap.ext_get? fun key => ?_
    rw [SortedMap.get?_erase, SortedMap.get?_insert]
    split
    next hsame =>
      rw [hsame, hkey]
      exact Option.map_eq_none_iff.mp hnew
    next hother => rw [if_neg fun heq => hother (heq.trans hkey.symm)]
  exact congrArg Schema.mk hentries

lemma maintained : s.Maintained where
  builtIn := hs.builtIn
  others d hd := by
    obtain ⟨entry, hentry, rfl⟩ := hs.coherent.mem_definitions_iff.mp hd
    have hprepared := hs.coherent.prepared _ entry hentry
    exact (hs.others _ hd).imp_right fun hdynamic =>
      ⟨hdynamic, (SchemaEntry.exists_ofDefinition_iff.mp ⟨entry, hprepared⟩).1⟩
  keyed key entry hentry := (hs.coherent.keyed key entry hentry).symm
  compiled _ _ hentry := hs.compiled hentry
  ascending := hs.coherent.ascending_definitions
  refused _ _ h := after_of_error h
  definable _ := hs.exists_define_iff
  defined d d' s' h := by
    obtain ⟨hd', -, -, hresolve⟩ := define_spec h
    refine ⟨hd'.trans (placed_eq s d), by rw [hresolve]; exact if_pos rfl,
      after_of_ok (c := .define d) h, fun key hkey => ?_⟩
    obtain ⟨-, -, -, entry, -, -, rfl⟩ := define_eq_ok_iff.mp h
    exact SortedMap.get?_insert_of_ne _ _ hkey
  retirable name := by
    refine ⟨?_, ?_⟩
    · rintro ⟨⟨d, s'⟩, h⟩
      obtain ⟨hd, hdynamic, -⟩ := retire_eq_ok_iff.mp h
      obtain ⟨hmem, hkey⟩ := hs.coherent.resolve_eq_some_iff.mp hd
      exact ⟨d, hmem, hkey, (hs.dynamic_iff hmem).mp hdynamic⟩
    · rintro ⟨d, hmem, hkey, hnot⟩
      exact ⟨_, retire_eq_ok_iff.mpr ⟨hs.coherent.resolve_eq_some_iff.mpr ⟨hmem, hkey⟩,
        (hs.dynamic_iff hmem).mpr hnot, rfl⟩⟩
  retired name d s' h := by
    have hafter := after_of_ok (c := .retire name) h
    obtain ⟨hd, -, rfl⟩ := retire_eq_ok_iff.mp h
    refine ⟨hd, by rw [resolve_erase, if_pos rfl], hafter, fun key hkey => ?_⟩
    rw [SortedMap.get?_erase, if_neg hkey]
  undone _ _ _ _ := undone
  rebuilt := hs.coherent.ofDefinitions_definitions

end Rooted

/-- **Whatever is defined and retired, a schema that starts with the built-in attributes keeps
them** and stays in order, and every change to it does what it says or nothing. -/
theorem maintained_afterAll :
    ∃ s, builtIn = .ok s ∧ ∀ cs : List Change, (s.afterAll cs).Maintained := by
  obtain ⟨s, hs⟩ := exists_builtIn
  exact ⟨s, hs, fun cs => ((rooted_builtIn hs).afterAll cs).maintained⟩

end Schema

end Provisioning
