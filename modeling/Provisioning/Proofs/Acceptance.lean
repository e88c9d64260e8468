import Provisioning.Proofs.Classification
import Provisioning.Proofs.Stored.Legible

/-!
What an accepted validation accounts for.

Where a validation is ok, nothing that was proposed is lost and nothing is made up: the entries
other than null and the accepted values correspond one to one and in order, and so do the nulls of
an existing record and the attributes that are cleared (`Schema.Accounts`). In such a validation
nothing is wrong with any entry (`Finding.Clean`), and then each entry leaves exactly one trace
(`Schema.Coherent.judge_of_clean`, and for all entries `Schema.Coherent.trace_findings`).
-/

namespace Provisioning

namespace AttributeValue

variable {kind : AttributeKind} {j : Json} {v : AttributeValue}

/-- What is read from JSON under a kind is of this kind and can be stored under it. -/
lemma encodeAs_of_fromWire (h : fromWire kind j = .ok v) :
    v.kind = kind ∧ encodeAs kind v = .ok v.encode := by
  obtain ⟨rfl, hregular | rfl⟩ := regular_or_document_of_fromWire h
  · exact ⟨rfl, encodeAs_kind hregular⟩
  · exact ⟨rfl, rfl⟩

end AttributeValue

/-- Each member of a list has its counterpart. -/
lemma exists_mem_of_forall₂ {α β : Type} {R : α → β → Prop} {as : List α} {bs : List β} {a : α}
    (h : List.Forall₂ R as bs) (ha : a ∈ as) : ∃ b ∈ bs, R a b := by
  induction h with
  | nil => cases ha
  | cons hab _ ih =>
    rcases List.mem_cons.mp ha with rfl | ha
    · exact ⟨_, List.mem_cons_self, hab⟩
    · obtain ⟨b, hb, hab⟩ := ih ha
      exact ⟨b, List.mem_cons_of_mem _ hb, hab⟩

/-! ### Findings where nothing is wrong -/

/-- Nothing is wrong with the entry. -/
def Finding.Clean : Finding → Prop
  | cleared _ | absent _ | accepted _ _ => True
  | unknown _ | repeated _ | readOnly _ | invalid _ => False

/-- In a validation that is ok nothing is wrong with any entry, and nothing is missing. -/
lemma AttributeCheck.clean_of_ok {c : AttributeCheck} {taken : SortedSet Uuid}
    (h : (c.finish taken).result.ok) : (∀ f ∈ c.findings, f.Clean) ∧ c.missing = [] := by
  simp only [finish, ValidationResult.ofNames, Bool.and_eq_true, List.isEmpty_iff,
    List.filterMap_eq_nil_iff] at h
  obtain ⟨⟨⟨⟨hunknown, hmissing⟩, hinvalid⟩, -⟩, hreadOnly⟩ := h
  refine ⟨fun f hf => ?_, hmissing⟩
  cases f with
  | cleared | absent | accepted => trivial
  | unknown => cases hunknown _ hf
  | repeated | invalid => cases hinvalid _ hf
  | readOnly => cases hreadOnly _ hf

namespace Schema

/-- The entries that give a value. -/
def giving (entries : List (String × Json)) : List (String × Json) :=
  entries.filter fun entry => !entry.2.isNull

/-- The entries that take a value away: null does so for an existing record. -/
def clearing (state : RecordState) (entries : List (String × Json)) : List (String × Json) :=
  if state.isNew then [] else entries.filter fun entry => entry.2.isNull

section Parts

variable {name : String} {j : Json} {entries : List (String × Json)} {state : RecordState}

lemma clearing_nil : clearing state [] = [] := by cases state <;> rfl

lemma giving_cons_of_null (h : j.isNull = true) :
    giving ((name, j) :: entries) = giving entries := by
  simp [giving, h]

lemma giving_cons_of_value (h : j.isNull = false) :
    giving ((name, j) :: entries) = (name, j) :: giving entries := by
  simp [giving, h]

lemma clearing_cons_of_null {user : Uuid} (h : j.isNull = true) :
    clearing (.existing user) ((name, j) :: entries) =
      (name, j) :: clearing (.existing user) entries := by
  simp [clearing, RecordState.isNew, h]

lemma clearing_cons_of_value (h : j.isNull = false) :
    clearing state ((name, j) :: entries) = clearing state entries := by
  simp [clearing, h]

end Parts

section Entries

variable (s : Schema) (entry : String × Json)

/-- An accepted value is the one that an entry gives to the attribute it names. -/
def Accepts (a : AcceptedValue) : Prop :=
  ∃ d ∈ s.definitions, d.key = Text.lower entry.1 ∧ a.attributeId = d.id ∧ a.name = d.name ∧
    AttributeValue.fromWire d.kind entry.2 = .ok a.value ∧ a.value.kind = d.kind ∧
    AttributeValue.encodeAs d.kind a.value = .ok a.encoded

/-- An identifier is that of the attribute an entry names. -/
def Clears (id : Uuid) : Prop :=
  ∃ d ∈ s.definitions, d.key = Text.lower entry.1 ∧ id = d.id

end Entries

/-- A validation accounts for every proposed entry, and for nothing else. -/
structure Accounts (s : Schema) (state : RecordState) (proposed : SortedMap String Json)
    (v : Validation) : Prop where
  /-- Each entry that gives a value is accepted with this value, in the order of the entries. -/
  values : List.Forall₂ s.Accepts (giving proposed.toList) v.values
  /-- Each entry that takes a value away clears its attribute, in the order of the entries. -/
  cleared : List.Forall₂ s.Clears (clearing state proposed.toList) v.cleared
  /-- No two rows are for one attribute, and none is for one that is cleared. -/
  distinct : ∀ user, ((v.rows user).map (·.attributeId) ++ v.cleared).Nodup
  /-- Every mandatory attribute of a new record has a value. -/
  mandatory : state = .new → ∀ d ∈ s.definitions, d.mandatory →
    ∃ a ∈ v.values, a.attributeId = d.id ∧ a.name = d.name

variable {s : Schema} {enforceReadOnly : Bool} {state : RecordState}
  {proposed : SortedMap String Json} {taken : SortedSet Uuid}

/-- An entry with which nothing is wrong gives an attribute of the schema a value, or it is null. -/
lemma Coherent.judge_of_clean (hs : s.Coherent) {earlier : List String} {name : String} {j : Json}
    (h : (s.judge enforceReadOnly state earlier name j).Clean) :
    ∃ d ∈ s.definitions, d.key = Text.lower name ∧
      (j.isNull = true ∧ s.judge enforceReadOnly state earlier name j =
          (if state.isNew then .absent d else .cleared d) ∨
        j.isNull = false ∧ ∃ v, AttributeValue.fromWire d.kind j = .ok v ∧
          s.judge enforceReadOnly state earlier name j = .accepted d v) := by
  generalize hf : s.judge enforceReadOnly state earlier name j = f at h
  rcases eq_judge_iff.mp hf.symm with ⟨-, rfl⟩ | ⟨d, hd, ⟨-, rfl⟩ | ⟨-, rfl⟩⟩
  · cases h
  · cases h
  · obtain ⟨hmem, hkey⟩ := hs.resolve_eq_some_iff.mp hd
    refine ⟨d, hmem, hkey, ?_⟩
    have hverdict : Verdict d enforceReadOnly state j (s.judgeFirst enforceReadOnly state d j) :=
      hs.verdict_judgeFirst hmem j
    generalize s.judgeFirst enforceReadOnly state d j = f at h hverdict
    cases hverdict with
    | readOnly => cases h
    | invalid => cases h
    | absent _ hj hstate =>
      subst hj hstate
      exact Or.inl ⟨rfl, rfl⟩
    | cleared _ hj hstate =>
      subst hj
      cases state with
      | new => exact absurd rfl hstate
      | existing user => exact Or.inl ⟨rfl, rfl⟩
    | accepted _ hj hfits =>
      exact Or.inr ⟨Bool.eq_false_iff.mpr (mt Json.isNull_iff.mp hj), _, hfits.1, rfl⟩

/-- Where nothing is wrong with any entry, accepted values and cleared attributes stand for the
entries, one by one. -/
lemma Coherent.trace_findings (hs : s.Coherent) (earlier : List String)
    (entries : List (String × Json))
    (h : ∀ f ∈ s.findings enforceReadOnly state earlier entries, f.Clean) :
    let found := s.findings enforceReadOnly state earlier entries
    List.Forall₂ s.Accepts (giving entries) (found.filterMap Finding.acceptedValue?) ∧
      List.Forall₂ s.Clears (clearing state entries) (found.filterMap Finding.clearedId?) := by
  induction entries generalizing earlier with
  | nil =>
    rw [clearing_nil]
    exact ⟨.nil, .nil⟩
  | cons entry rest ih =>
    obtain ⟨name, j⟩ := entry
    obtain ⟨hclean, hrest⟩ := List.forall_mem_cons.mp h
    obtain ⟨hvalues, hcleared⟩ := ih _ hrest
    unfold findings
    obtain ⟨d, hd, hkey, ⟨hnull, hfound⟩ | ⟨hvalue, v, hv, hfound⟩⟩ := hs.judge_of_clean hclean
    · rw [giving_cons_of_null hnull, hfound]
      cases state with
      | new => exact ⟨hvalues, hcleared⟩
      | existing user =>
        rw [clearing_cons_of_null hnull]
        exact ⟨hvalues, hcleared.cons ⟨d, hd, hkey, rfl⟩⟩
    · rw [giving_cons_of_value hvalue, clearing_cons_of_value hvalue, hfound]
      have hencode := AttributeValue.encodeAs_of_fromWire hv
      exact ⟨hvalues.cons ⟨d, hd, hkey, rfl, rfl, hv, hencode⟩, hcleared⟩

/-- In a validation that is ok, a new record has a value for every mandatory attribute. -/
lemma Coherent.exists_giving (hs : s.Coherent) (h : s.missing .new proposed.toList = [])
    {d : AttributeDefinition} (hd : d ∈ s.definitions) (hmandatory : d.mandatory) :
    ∃ name j, (name, j) ∈ giving proposed.toList ∧ Text.lower name = d.key := by
  have hlast : ∃ j, LastFor proposed d j ∧ j ≠ .null := by
    by_contra! hnone
    have hmem := hs.mem_missing.mpr ⟨d, hd, rfl, hmandatory, rfl, hnone⟩
    exact List.not_mem_nil (h ▸ hmem)
  obtain ⟨j, ⟨name, hentry, -⟩, hj⟩ := hlast
  rw [entryFor_iff] at hentry
  exact ⟨name, j, List.mem_filter.mpr ⟨hentry.1, Json.not_isNull_iff.mpr hj⟩, hentry.2⟩

/-- **A validation that is ok accounts for every entry.** The entries other than null and the
accepted values correspond one to one, and so do the nulls of an existing record and the cleared
attributes. Each accepted value is what is read from its entry, of the kind of the attribute, with
its stored form; no attribute is changed twice; and a new record has all of its mandatory
attributes. -/
theorem accounts_of_ok (hs : s.Built) (hids : s.DistinctIds)
    (h : ((s.check enforceReadOnly state proposed).finish taken).result.ok) :
    s.Accounts state proposed ((s.check enforceReadOnly state proposed).finish taken) := by
  obtain ⟨hclean, hmissing⟩ := AttributeCheck.clean_of_ok h
  obtain ⟨hvalues, hcleared⟩ := hs.coherent.trace_findings [] proposed.toList hclean
  have hmem : ∀ name d, s.resolve name = some d → d ∈ s.definitions := fun name d hd =>
    (hs.coherent.resolve_eq_some_iff.mp hd).1
  have hnodup := nodup_changed (fun _ d _ e hd he => hids d (hmem _ d hd) e (hmem _ e he))
    enforceReadOnly state [] proposed.toList
  refine ⟨hvalues, hcleared, fun user => ?_, ?_⟩
  · rw [Validation.rows, List.map_map]
    exact hnodup
  · rintro rfl d hd hmandatory
    obtain ⟨name, j, hentry, hkey⟩ := hs.coherent.exists_giving hmissing hd hmandatory
    obtain ⟨a, ha, d', hd', hkey', hid, hname, -⟩ := exists_mem_of_forall₂ hvalues hentry
    obtain rfl := hs.coherent.eq_of_key_eq hd' hd (hkey'.trans hkey)
    exact ⟨a, ha, hid, hname⟩

/-- A title in place of an old one, and a badge that is given back. -/
theorem accounts_of_ok_sample :
    let proposed := .ofList [("BADGE", .null), ("Title", .string "b")]
    let v := (sampleSchema.check true (.existing ⟨9, by decide⟩) proposed).finish .empty
    sampleSchema.Accounts (.existing ⟨9, by decide⟩) proposed v ∧
      v.values.map (·.encoded) = ["b"] ∧ v.cleared = [⟨1, by decide⟩] :=
  ⟨accounts_of_ok built_sampleSchema (by decide +kernel) (by decide +kernel),
    by decide +kernel, by decide +kernel⟩

end Schema

end Provisioning
