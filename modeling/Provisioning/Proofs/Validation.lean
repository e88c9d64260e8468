import Mathlib.Data.List.Nodup
import Provisioning.Operations
import Provisioning.Proofs.Session

/-!
What an accepted validation says.

A schema made of definitions finds each of them by its key and finds nothing else. An attribute that
was met before is refused, so entries accept or clear each attribute at most once; and since
accepted values of unique attributes are looked for, no other user has one where the validation is
ok (`Validation.Sound`).
-/

namespace Provisioning

/-! ### Schemas -/

namespace Schema

variable {s s' : Schema}

lemma add_eq_ok {d : AttributeDefinition} (h : s.add d = .ok s') :
    s.entries.get? d.key = none ∧ ∃ entry, SchemaEntry.ofDefinition d = .ok entry ∧
      s'.entries = s.entries.insert d.key entry := by
  unfold add at h
  split at h
  next => cases h
  next hnew =>
    obtain ⟨entry, hentry, rfl⟩ := map_eq_ok.mp h
    exact ⟨by simpa [SortedMap.contains] using hnew, entry, hentry, rfl⟩

lemma get?_entries_foldlM {ds : List AttributeDefinition} (h : ds.foldlM add s = .ok s')
    (key : String) (entry : SchemaEntry) :
    s'.entries.get? key = some entry ↔ s.entries.get? key = some entry ∨
      ∃ d ∈ ds, d.key = key ∧ SchemaEntry.ofDefinition d = .ok entry := by
  induction ds generalizing s with
  | nil =>
    obtain rfl := Except.ok.inj h
    simp
  | cons d rest ih =>
    rw [List.foldlM_cons] at h
    obtain ⟨s₁, hadd, h⟩ := bind_eq_ok.mp h
    obtain ⟨hnew, e, he, hentries⟩ := add_eq_ok hadd
    rw [ih h, hentries, SortedMap.get?_insert]
    by_cases hkey : key = d.key
    · simp [hkey, hnew, he, eq_comm]
    · simp [hkey, Ne.symm hkey]

/-- What a schema of definitions has under a key. -/
lemma get?_entries_ofDefinitions {ds : List AttributeDefinition} (h : ofDefinitions ds = .ok s)
    (key : String) (entry : SchemaEntry) :
    s.entries.get? key = some entry ↔
      ∃ d ∈ ds, d.key = key ∧ SchemaEntry.ofDefinition d = .ok entry := by
  have hnone : Schema.empty.entries.get? key ≠ some entry := fun h => by cases h
  rw [get?_entries_foldlM h, or_iff_right hnone]

end Schema

lemma SchemaEntry.definition_of_ofDefinition {d : AttributeDefinition} {entry : SchemaEntry}
    (h : SchemaEntry.ofDefinition d = .ok entry) : entry.definition = d := by
  unfold ofDefinition at h
  split at h
  · cases h
  · split at h
    · obtain rfl := Except.ok.inj h
      rfl
    · split at h
      · obtain rfl := Except.ok.inj h
        rfl
      · cases h

/-- A name is resolved to a definition with that key. -/
lemma Schema.resolve_spec {ds : List AttributeDefinition} {s : Schema}
    (h : ofDefinitions ds = .ok s) {name : String} {d : AttributeDefinition}
    (hd : s.resolve name = some d) : d ∈ ds ∧ d.key = Text.lower name := by
  obtain ⟨entry, hentry, rfl⟩ := Option.map_eq_some_iff.mp hd
  obtain ⟨d, hmem, hkey, hd⟩ := (get?_entries_ofDefinitions h _ entry).mp hentry
  rw [SchemaEntry.definition_of_ofDefinition hd]
  exact ⟨hmem, hkey⟩

/-! ### Findings -/

namespace Finding

/-- The attribute that is given a value or cleared. -/
def changed? : Finding → Option AttributeDefinition
  | accepted d _ => some d
  | cleared d => some d
  | _ => none

/-- What is changed is what is accepted and what is cleared. -/
lemma perm_changed (fs : List Finding) :
    ((fs.filterMap acceptedValue?).map (·.attributeId) ++ fs.filterMap clearedId?).Perm
      ((fs.filterMap changed?).map (·.id)) := by
  induction fs with
  | nil => exact .nil
  | cons f rest ih =>
    cases f with
    | accepted d v => exact ih.cons d.id
    | cleared d => exact List.perm_middle.trans (ih.cons d.id)
    | unknown | repeated | readOnly | absent | invalid => exact ih

lemma mem_accepted {fs : List Finding} {a : AcceptedValue}
    (h : a ∈ fs.filterMap acceptedValue?) :
    ∃ d v, accepted d v ∈ fs ∧ a = ⟨d.id, d.name, v, v.encode⟩ := by
  obtain ⟨f, hf, ha⟩ := List.mem_filterMap.mp h
  cases f with
  | accepted d v => exact ⟨d, v, hf, (Option.some.inj ha).symm⟩
  | unknown | repeated | readOnly | cleared | absent | invalid => cases ha

/-- The accepted value of a unique attribute is looked for. -/
lemma mem_probes {fs : List Finding} {d : AttributeDefinition} {v : AttributeValue}
    (h : accepted d v ∈ fs) (hd : d.unique) :
    (⟨d.id, d.name, v.encode⟩ : Probe) ∈ fs.filterMap probe? :=
  List.mem_filterMap.mpr ⟨_, h, if_pos hd⟩

end Finding

namespace Schema

variable {s : Schema}

lemma changed?_judgeValue {d d' : AttributeDefinition} {j : Json}
    (h : (s.judgeValue d j).changed? = some d') : d' = d := by
  unfold judgeValue at h
  split at h
  · cases h
  · split at h
    · exact (Option.some.inj h).symm
    · cases h

/-- Only an attribute of the schema that was not met before is changed. -/
lemma changed?_judge {enforceReadOnly : Bool} {state : RecordState} {earlier : List String}
    {name : String} {j : Json} {d : AttributeDefinition}
    (h : (s.judge enforceReadOnly state earlier name j).changed? = some d) :
    s.resolve name = some d ∧ d.key ∉ earlier := by
  unfold judge at h
  split at h
  next => cases h
  next d' hd' =>
    split at h
    next => cases h
    next hnew =>
      have hd : d = d' := by
        split at h
        · cases h
        · split at h
          · split at h
            · cases h
            · exact (Option.some.inj h).symm
          · exact changed?_judgeValue h
      subst hd
      exact ⟨hd', by simpa using hnew⟩

/-- Entries change each attribute at most once, and none that was met before. -/
lemma changed_findings (s : Schema) (enforceReadOnly : Bool) (state : RecordState)
    (earlier : List String) (entries : List (String × Json)) :
    let changed := (s.findings enforceReadOnly state earlier entries).filterMap Finding.changed?
    (∀ d ∈ changed, (∃ name, s.resolve name = some d) ∧ d.key ∉ earlier) ∧
      (changed.map (·.key)).Nodup := by
  induction entries generalizing earlier with
  | nil => simp [findings]
  | cons entry rest ih =>
    obtain ⟨name, j⟩ := entry
    obtain ⟨hmem, hnodup⟩ := ih ((s.keyOf? name).toList ++ earlier)
    have hlater : ∀ d ∈ (s.findings enforceReadOnly state ((s.keyOf? name).toList ++ earlier)
        rest).filterMap Finding.changed?, (∃ name, s.resolve name = some d) ∧ d.key ∉ earlier :=
      fun d hd => ⟨(hmem d hd).1, fun h => (hmem d hd).2 (List.mem_append_right _ h)⟩
    unfold findings
    dsimp only
    rcases hchanged : (s.judge enforceReadOnly state earlier name j).changed? with _ | d
    · rw [List.filterMap_cons_none hchanged]
      exact ⟨hlater, hnodup⟩
    · obtain ⟨hresolve, hnew⟩ := changed?_judge hchanged
      rw [List.filterMap_cons_some hchanged]
      refine ⟨?_, ?_⟩
      · rintro d' hd'
        rcases List.mem_cons.mp hd' with rfl | hd'
        · exact ⟨⟨name, hresolve⟩, hnew⟩
        · exact hlater d' hd'
      · rw [List.map_cons, List.nodup_cons]
        refine ⟨fun hkey => ?_, hnodup⟩
        obtain ⟨d', hd', hkey'⟩ := List.mem_map.mp hkey
        have hmet : d.key ∈ (s.keyOf? name).toList := by simp [keyOf?, hresolve]
        exact (hmem d' hd').2 (List.mem_append_left _ (hkey' ▸ hmet))

/-- Entries change no attribute twice where identifiers tell the attributes of the schema apart. -/
lemma nodup_changed (hids : ∀ name d name' e, s.resolve name = some d → s.resolve name' = some e →
      d.id = e.id → d = e)
    (enforceReadOnly : Bool) (state : RecordState) (earlier : List String)
    (entries : List (String × Json)) :
    let found := s.findings enforceReadOnly state earlier entries
    ((found.filterMap Finding.acceptedValue?).map (·.attributeId) ++
      found.filterMap Finding.clearedId?).Nodup := by
  obtain ⟨hchanged, hkeys⟩ := s.changed_findings enforceReadOnly state earlier entries
  refine (Finding.perm_changed _).nodup_iff.mpr ?_
  refine (List.Nodup.of_map _ hkeys).map_on fun d hd e he hid => ?_
  obtain ⟨⟨name, hname⟩, -⟩ := hchanged d hd
  obtain ⟨⟨name', hname'⟩, -⟩ := hchanged e he
  exact hids name d name' e hname hname' hid

end Schema

/-! ### Verdicts -/

namespace Tenant

/-- No two definitions have one identifier. -/
def DistinctIds (t : Tenant) : Prop :=
  ∀ d ∈ t.definitions.values, ∀ e ∈ t.definitions.values, d.id = e.id → d = e

instance (t : Tenant) : Decidable t.DistinctIds :=
  inferInstanceAs (Decidable (∀ d ∈ t.definitions.values, ∀ e ∈ t.definitions.values, _ → d = e))

lemma isTaken_iff {t : Tenant} {except : Option Uuid} {p : Probe} :
    t.isTaken except p ↔
      ∃ user, some user ≠ except ∧ t.valueOf user p.attributeId = some p.encoded := by
  simp only [isTaken, valueOf, List.any_eq_true, Prod.exists, ← SortedMap.get?_eq_some_iff,
    Bool.and_eq_true, bne_iff_ne, beq_iff_eq, Option.bind_eq_some_iff]
  grind

end Tenant

/-- What a validation for a tenant says of the attributes that it gives values or clears. -/
structure Validation.Sound (v : Validation) (t : Tenant) (except : Option Uuid) : Prop where
  /-- No attribute is changed twice. -/
  distinct : (v.values.map (·.attributeId) ++ v.cleared).Nodup
  /-- Values are stored in their encoded form. -/
  encoded : ∀ a ∈ v.values, a.encoded = a.value.encode
  /-- If the validation is ok, no other user has the value of a unique attribute. -/
  free : v.result.ok → ∀ d ∈ t.definitions.values, d.unique → ∀ a ∈ v.values,
    a.attributeId = d.id → ∀ user, some user ≠ except → t.valueOf user d.id ≠ some a.encoded

section Sound

variable {t : Tenant} {p : Policy} {proposed : SortedMap String Json} {state : RecordState}
  {v : Validation}

lemma on_loadSchema_eq_ok {s : Schema} (h : loadSchema.on t = .ok s) :
    Schema.ofDefinitions t.definitions.values = .ok s := by
  obtain ⟨definitions, hdefinitions, h⟩ := (Session.on_bind_eq_ok t).mp h
  obtain rfl := Except.ok.inj hdefinitions
  rw [Session.on_ofExcept] at h
  exact mapError_eq_ok.mp h

lemma on_lookUpTaken (probes : List Probe) (except : Option Uuid) :
    (lookUpTaken probes except).on t =
      .ok (.ofList ((probes.filter (t.isTaken except)).map (·.attributeId))) := by
  unfold lookUpTaken
  split
  next h =>
    rw [List.isEmpty_iff.mp h]
    rfl
  next => rfl

/-- Proposed attributes are checked by the schema, and then against stored values. -/
lemma on_validateAttributes_eq_ok
    (h : (p.validateAttributes proposed state).on t = .ok v) :
    ∃ s, Schema.ofDefinitions t.definitions.values = .ok s ∧
      v = (s.check p.enforceReadOnly state proposed).finish
        (.ofList (((s.check p.enforceReadOnly state proposed).probes.filter
          (t.isTaken state.ownUser)).map (·.attributeId))) := by
  obtain ⟨s, hs, h⟩ := (Session.on_bind_eq_ok t).mp h
  obtain ⟨taken, htaken, h⟩ := (Session.on_bind_eq_ok t).mp h
  rw [on_lookUpTaken] at htaken
  obtain rfl := Except.ok.inj htaken
  exact ⟨s, on_loadSchema_eq_ok hs, (Except.ok.inj h).symm⟩

namespace AttributeCheck

variable {c : AttributeCheck} {taken : SortedSet Uuid}

/-- A validation that is ok found no value that is taken. -/
lemma duplicates_eq_nil (h : (c.finish taken).result.ok) : c.duplicates taken = [] := by
  simp only [finish, ValidationResult.ofNames, Bool.and_eq_true] at h
  exact List.isEmpty_iff.mp h.1.2

lemma mem_duplicates {a : AcceptedValue} (ha : a ∈ c.accepted)
    (hprobe : ∃ p ∈ c.probes, p.attributeId = a.attributeId) (htaken : a.attributeId ∈ taken) :
    a.name ∈ c.duplicates taken := by
  refine List.mem_map.mpr ⟨a, List.mem_filter.mpr ⟨ha, ?_⟩, rfl⟩
  rw [Bool.and_eq_true, List.contains_iff_mem, SortedSet.contains_iff]
  exact ⟨List.mem_map.mpr hprobe, htaken⟩

/-- If the validation is ok, no other user has a value that was looked for. -/
lemma not_isTaken {except : Option Uuid} (h : (c.finish
      (.ofList ((c.probes.filter (t.isTaken except)).map (·.attributeId)))).result.ok)
    {a : AcceptedValue} (ha : a ∈ c.accepted) {probe : Probe} (hprobe : probe ∈ c.probes)
    (hid : probe.attributeId = a.attributeId) : ¬t.isTaken except probe := by
  intro htaken
  have hin : a.attributeId ∈ (c.probes.filter (t.isTaken except)).map (·.attributeId) :=
    List.mem_map.mpr ⟨probe, List.mem_filter.mpr ⟨hprobe, htaken⟩, hid⟩
  have hmem := mem_duplicates ha ⟨probe, hprobe, hid⟩ (SortedSet.mem_ofList.mpr hin)
  rw [duplicates_eq_nil h] at hmem
  exact absurd hmem List.not_mem_nil

end AttributeCheck

lemma sound_of_validateAttributes (hids : t.DistinctIds)
    (h : (p.validateAttributes proposed state).on t = .ok v) : v.Sound t state.ownUser := by
  obtain ⟨s, hs, rfl⟩ := on_validateAttributes_eq_ok h
  have hnodup := Schema.nodup_changed (fun _ d _ e hd he => hids d (Schema.resolve_spec hs hd).1 e
    (Schema.resolve_spec hs he).1) p.enforceReadOnly state [] proposed.toList
  obtain ⟨hchanged, -⟩ := s.changed_findings p.enforceReadOnly state [] proposed.toList
  generalize hfs : s.findings p.enforceReadOnly state [] proposed.toList = fs at hchanged hnodup
  have hcheck : (s.check p.enforceReadOnly state proposed).findings = fs := hfs
  generalize s.check p.enforceReadOnly state proposed = c at hcheck ⊢
  subst hcheck
  have hdefined : ∀ d ∈ c.findings.filterMap Finding.changed?, d ∈ t.definitions.values :=
    fun d hd => by
      obtain ⟨⟨name, hname⟩, -⟩ := hchanged d hd
      exact (Schema.resolve_spec hs hname).1
  refine ⟨hnodup, ?_, ?_⟩
  · intro a ha
    obtain ⟨d, value, -, rfl⟩ := Finding.mem_accepted ha
    rfl
  · intro hok d hd hunique a ha hid user huser hvalue
    have ha' : a ∈ c.accepted := ha
    obtain ⟨d', value, hfinding, rfl⟩ := Finding.mem_accepted ha
    have hd' := hdefined d' (List.mem_filterMap.mpr ⟨_, hfinding, rfl⟩)
    obtain rfl := hids d' hd' d hd hid
    exact AttributeCheck.not_isTaken hok ha' (Finding.mem_probes hfinding hunique) rfl
      (Tenant.isTaken_iff.mpr ⟨user, huser, hvalue⟩)

end Sound

end Provisioning
