import Provisioning.Proofs.Missing

/-!
Names in another case.

A proposal may spell the names of its attributes in another case (`Recased`). The entries then come
in another order, but as long as no attribute is given twice, every entry is judged apart from the
others (`Schema.Coherent.findings_eq_map`) and by what its name is in lower case
(`Schema.judge_recased`). So the same is found about the same entries, and only the names that no
attribute has show how they were spelled (`Schema.ignoresCase`).
-/

namespace Provisioning

/-! ### Proposals -/

/-- A proposal has the entries of another one, their names spelled in another case. -/
structure Recased (respell : String → String) (proposed recased : SortedMap String Json) :
    Prop where
  /-- The new spelling of a name is the old one in lower case. -/
  lower : ∀ e ∈ proposed.toList, Text.lower (respell e.1) = Text.lower e.1
  /-- Every entry is there under its new name, and no others are. -/
  entries : recased.toList.Perm (proposed.toList.map fun e => (respell e.1, e.2))

/-- No two names of a proposal are the same in lower case. -/
def NamesDiffer (proposed : SortedMap String Json) : Prop :=
  (proposed.toList.map fun e => Text.lower e.1).Nodup

instance (proposed : SortedMap String Json) : Decidable (NamesDiffer proposed) :=
  inferInstanceAs (Decidable (List.Nodup _))

section Proposals

variable {respell : String → String} {proposed recased : SortedMap String Json}
  {d : AttributeDefinition} {j : Json}

lemma Recased.namesDiffer (h : Recased respell proposed recased) (hnames : NamesDiffer proposed) :
    NamesDiffer recased := by
  have hlower : (proposed.toList.map fun e => Text.lower (respell e.1)) =
      proposed.toList.map fun e => Text.lower e.1 := List.map_congr_left h.lower
  have hperm := h.entries.map fun e => Text.lower e.1
  rw [List.map_map] at hperm
  exact (hperm.trans (.of_eq hlower)).nodup_iff.mpr hnames

/-- Different names stay different. -/
lemma Recased.injective (h : Recased respell proposed recased) (hnames : NamesDiffer proposed)
    {e e' : String × Json} (he : e ∈ proposed.toList) (he' : e' ∈ proposed.toList)
    (heq : respell e.1 = respell e'.1) : e = e' := by
  refine List.inj_on_of_nodup_map hnames he he' ?_
  rw [← h.lower e he, ← h.lower e' he', heq]

/-- The value proposed for an attribute does not depend on the spelling. -/
lemma Recased.entryFor_iff (h : Recased respell proposed recased) :
    (∃ name, EntryFor recased d name j) ↔ ∃ name, EntryFor proposed d name j := by
  simp only [Provisioning.entryFor_iff, h.entries.mem_iff, List.mem_map]
  refine ⟨?_, ?_⟩
  · rintro ⟨name, ⟨e, he, heq⟩, hkey⟩
    obtain ⟨rfl, rfl⟩ := Prod.mk.inj heq
    exact ⟨e.1, he, (h.lower e he).symm.trans hkey⟩
  · rintro ⟨name, he, hkey⟩
    exact ⟨respell name, ⟨_, he, rfl⟩, (h.lower _ he).trans hkey⟩

/-- The only entry for an attribute is the last one. -/
lemma NamesDiffer.lastFor_iff (hnames : NamesDiffer proposed) :
    LastFor proposed d j ↔ ∃ name, EntryFor proposed d name j := by
  refine ⟨fun ⟨name, hentry, _⟩ => ⟨name, hentry⟩, ?_⟩
  rintro ⟨name, hentry⟩
  refine ⟨name, hentry, fun name' j' hentry' => ?_⟩
  rw [Provisioning.entryFor_iff] at hentry hentry'
  obtain ⟨rfl, -⟩ := Prod.mk.inj
    (List.inj_on_of_nodup_map hnames hentry.1 hentry'.1 (hentry.2.trans hentry'.2.symm))
  simp

end Proposals

/-! ### Findings -/

namespace Finding

/-- What is found about an entry whose name is spelled in another way. -/
def respelled (respell : String → String) : Finding → Finding
  | unknown name => unknown (respell name)
  | f => f

variable (respell : String → String) (fs : List Finding)

lemma unknownNames_respelled :
    (fs.map (respelled respell)).filterMap unknownName? =
      (fs.filterMap unknownName?).map respell := by
  rw [List.filterMap_map, List.map_filterMap]
  congr 1
  funext f
  cases f <;> rfl

/-- Nothing else that is found shows the spelling. -/
lemma filterMap_respelled {β : Type} {part : Finding → Option β}
    (hpart : ∀ name, part (.unknown name) = none) :
    (fs.map (respelled respell)).filterMap part = fs.filterMap part := by
  rw [List.filterMap_map]
  congr 1
  funext f
  cases f with
  | unknown name => exact (hpart _).trans (hpart _).symm
  | _ => rfl

end Finding

namespace Schema

variable {s : Schema} {enforceReadOnly : Bool} {state : RecordState} {respell : String → String}
  {proposed recased : SortedMap String Json}

lemma respelled_judgeValue (d : AttributeDefinition) (j : Json) :
    (s.judgeValue d j).respelled respell = s.judgeValue d j := by
  unfold judgeValue
  split
  · rfl
  · split_ifs <;> rfl

/-- What is found about an entry depends on its name in lower case. -/
lemma judge_recased {name : String} (h : Text.lower (respell name) = Text.lower name) (j : Json) :
    s.judge enforceReadOnly state [] (respell name) j =
      (s.judge enforceReadOnly state [] name j).respelled respell := by
  have hresolve : s.resolve (respell name) = s.resolve name := by
    unfold resolve entry?
    rw [h]
  unfold judge
  rw [hresolve]
  rcases s.resolve name with _ | d
  · rfl
  · dsimp only
    split_ifs
    · rfl
    · rfl
    · rfl
    · rfl
    · exact (respelled_judgeValue d j).symm

namespace Coherent

variable (hs : s.Coherent)

include hs

lemma keyOf?_eq_lower {name key : String} (h : s.keyOf? name = some key) :
    key = Text.lower name := by
  obtain ⟨d, hd, rfl⟩ := Option.map_eq_some_iff.mp h
  exact (hs.resolve_eq_some_iff.mp hd).2

/-- Entries for different attributes are judged one apart from the other. -/
lemma findings_eq_map {earlier : List String} {entries : List (String × Json)}
    (hnames : (entries.map fun e => Text.lower e.1).Nodup)
    (hearlier : ∀ e ∈ entries, Text.lower e.1 ∉ earlier) :
    s.findings enforceReadOnly state earlier entries =
      entries.map fun e => s.judge enforceReadOnly state [] e.1 e.2 := by
  induction entries generalizing earlier with
  | nil => rfl
  | cons e rest ih =>
    obtain ⟨name, j⟩ := e
    rw [List.map_cons, List.nodup_cons] at hnames
    obtain ⟨hfirst, hothers⟩ := List.forall_mem_cons.mp hearlier
    have hjudge : s.judge enforceReadOnly state earlier name j =
        s.judge enforceReadOnly state [] name j := by
      unfold judge
      rcases hd : s.resolve name with _ | d
      · rfl
      · have hkey : d.key ∉ earlier := (hs.resolve_eq_some_iff.mp hd).2 ▸ hfirst
        simp [hkey]
    have hrest : ∀ e ∈ rest, Text.lower e.1 ∉ (s.keyOf? name).toList ++ earlier := by
      intro e he hmem
      rcases List.mem_append.mp hmem with hkey | hold
      · have heq := hs.keyOf?_eq_lower (Option.mem_toList.mp hkey)
        exact hnames.1 (List.mem_map.mpr ⟨e, he, heq⟩)
      · exact hothers e he hold
    rw [findings, List.map_cons, hjudge, ih hnames.2 hrest]

/-- The same is found about the same entries, perhaps in another order. -/
lemma findings_recased (hnames : NamesDiffer proposed) (h : Recased respell proposed recased) :
    (s.check enforceReadOnly state recased).findings.Perm
      ((s.check enforceReadOnly state proposed).findings.map (Finding.respelled respell)) := by
  unfold check
  dsimp only
  rw [hs.findings_eq_map hnames (by simp), hs.findings_eq_map (h.namesDiffer hnames) (by simp)]
  refine (h.entries.map _).trans (.of_eq ?_)
  rw [List.map_map, List.map_map]
  exact List.map_congr_left fun e he => judge_recased (h.lower e he) e.2

/-- The same mandatory attributes are missing. -/
lemma missing_recased (hnames : NamesDiffer proposed) (h : Recased respell proposed recased) :
    s.missing state recased.toList = s.missing state proposed.toList := by
  have hsupplied : ∀ d ∈ s.mandatory,
      s.supplied recased.toList d = s.supplied proposed.toList d := by
    intro d hd
    have hmem := (List.mem_filter.mp hd).1
    rw [Bool.eq_iff_iff, hs.supplied_iff hmem, hs.supplied_iff hmem]
    simp only [hnames.lastFor_iff, (h.namesDiffer hnames).lastFor_iff, h.entryFor_iff]
  unfold missing
  rw [List.filter_congr fun d hd => congrArg not (hsupplied d hd)]

end Coherent

end Schema

/-! ### Validations -/

lemma sorted_eq_of_perm {names names' : List String} (h : names'.Perm names) :
    ValidationResult.sorted names' = ValidationResult.sorted names :=
  congrArg SortedSet.toList (SortedSet.ofList_congr fun _ => h.mem_iff)

lemma mem_sorted {names : List String} {name : String} :
    name ∈ ValidationResult.sorted names ↔ name ∈ names := SortedSet.mem_ofList

lemma nodup_sorted (names : List String) : (ValidationResult.sorted names).Nodup :=
  (SortedSet.ofList names).ascending.imp fun hlt heq => by simp [heq] at hlt

/-- Two checks find the same, but that one of them has the unknown names in another spelling. -/
structure AttributeCheck.Respells (respell : String → String) (c c' : AttributeCheck) : Prop where
  /-- The same values are looked for among those of other users. -/
  probes : c'.probes.Perm c.probes
  /-- The unknown names correspond. -/
  unknown : ∀ taken, (c'.finish taken).result.unknown.Perm
    ((c.finish taken).result.unknown.map respell)
  /-- All the rest of the result is the same. -/
  result : ∀ taken, (c'.finish taken).result =
    { (c.finish taken).result with unknown := (c'.finish taken).result.unknown }
  /-- The same values are to be stored, whoever the user is. -/
  rows : ∀ taken user, ((c'.finish taken).rows user).Perm ((c.finish taken).rows user)
  /-- The values of the same attributes are removed. -/
  cleared : ∀ taken, (c'.finish taken).cleared.Perm (c.finish taken).cleared

namespace AttributeCheck

variable {respell : String → String} {c c' : AttributeCheck}

/-- The same attributes are found to be taken. -/
lemma perm_duplicates (hprobes : c'.probes.Perm c.probes) (haccepted : c'.accepted.Perm c.accepted)
    (taken : SortedSet Uuid) : (c'.duplicates taken).Perm (c.duplicates taken) := by
  have hids : ∀ id, (c'.probes.map (·.attributeId)).contains id =
      (c.probes.map (·.attributeId)).contains id := fun id => by
    rw [Bool.eq_iff_iff, List.contains_iff_mem, List.contains_iff_mem, (hprobes.map _).mem_iff]
  unfold duplicates
  simp only [hids]
  exact (haccepted.filter _).map _

/-- Findings about the same entries make the same check. -/
lemma respells_of_perm (hfindings : c'.findings.Perm (c.findings.map (Finding.respelled respell)))
    (hmissing : c'.missing = c.missing)
    (hinjective : ∀ name ∈ c.findings.filterMap Finding.unknownName?,
      ∀ name' ∈ c.findings.filterMap Finding.unknownName?,
        respell name = respell name' → name = name') :
    c.Respells respell c' := by
  have hpart : ∀ {β : Type} (part : Finding → Option β), (∀ name, part (.unknown name) = none) →
      (c'.findings.filterMap part).Perm (c.findings.filterMap part) := fun part h =>
    (hfindings.filterMap part).trans (.of_eq (Finding.filterMap_respelled respell c.findings h))
  have hunknown : (c'.findings.filterMap Finding.unknownName?).Perm
      ((c.findings.filterMap Finding.unknownName?).map respell) :=
    (hfindings.filterMap _).trans (.of_eq (Finding.unknownNames_respelled respell c.findings))
  have hprobes : c'.probes.Perm c.probes := hpart _ fun _ => rfl
  have haccepted : c'.accepted.Perm c.accepted := hpart _ fun _ => rfl
  refine ⟨hprobes, fun taken => ?_, fun taken => ?_, fun taken user => haccepted.map _,
    fun taken => hpart _ fun _ => rfl⟩
  · have hnodup : ((c.finish taken).result.unknown.map respell).Nodup :=
      (nodup_sorted _).map_on fun name hname name' hname' =>
        hinjective name (mem_sorted.mp hname) name' (mem_sorted.mp hname')
    refine (List.perm_ext_iff_of_nodup (nodup_sorted _) hnodup).mpr fun name => ?_
    change name ∈ ValidationResult.sorted _ ↔ name ∈ (ValidationResult.sorted _).map respell
    simp only [mem_sorted, hunknown.mem_iff, List.mem_map]
  · unfold finish ValidationResult.ofNames
    have hinvalid := hpart Finding.invalidName? fun _ => rfl
    have hreadOnly := hpart Finding.readOnlyName? fun _ => rfl
    have hduplicates := perm_duplicates hprobes haccepted taken
    simp only [hmissing, sorted_eq_of_perm hinvalid, sorted_eq_of_perm hreadOnly,
      sorted_eq_of_perm hduplicates, hunknown.isEmpty_eq, hinvalid.isEmpty_eq,
      hreadOnly.isEmpty_eq, hduplicates.isEmpty_eq, List.isEmpty_map]

end AttributeCheck

namespace Schema

variable {s : Schema}

/-- **The spelling of names does not matter.** Proposals that spell the names of different
attributes in different cases are judged alike, whatever order their entries come in. -/
theorem ignoresCase (hs : s.Built) (enforceReadOnly : Bool) (state : RecordState)
    {respell : String → String} {proposed recased : SortedMap String Json}
    (hnames : NamesDiffer proposed) (h : Recased respell proposed recased) :
    (s.check enforceReadOnly state proposed).Respells respell
      (s.check enforceReadOnly state recased) := by
  refine AttributeCheck.respells_of_perm (hs.coherent.findings_recased hnames h)
    (hs.coherent.missing_recased hnames h) fun name hname name' hname' heq => ?_
  obtain ⟨⟨j, hj⟩, -⟩ :=
    hs.coherent.unknown_mem_findings.mp (Finding.mem_unknownNames.mp hname)
  obtain ⟨⟨j', hj'⟩, -⟩ :=
    hs.coherent.unknown_mem_findings.mp (Finding.mem_unknownNames.mp hname')
  exact congrArg Prod.fst (h.injective hnames (SortedMap.get?_eq_some_iff.mp hj)
    (SortedMap.get?_eq_some_iff.mp hj') heq)

/-- A badge, a start, a title and two names that no attribute has. -/
def plainProposal : SortedMap String Json :=
  .ofList [("Shoe", .null), ("badge", .ofInt 7), ("hat", .bool true), ("start", .null),
    ("title", .string "ab")]

/-- The same names in another case; they come in another order. -/
def shoutedProposal : SortedMap String Json :=
  .ofList [("Badge", .ofInt 7), ("HAT", .bool true), ("START", .null), ("shoe", .null),
    ("title", .string "ab")]

/-- Changes the case of the names that are spelled in another way. -/
def shout (name : String) : String :=
  ([("Shoe", "shoe"), ("badge", "Badge"), ("hat", "HAT"), ("start", "START")].lookup name).getD name

theorem ignoresCase_sample : sampleSchema.Built ∧ NamesDiffer plainProposal ∧
    Recased shout plainProposal shoutedProposal ∧
    let c := sampleSchema.check true (.existing 9) plainProposal
    let c' := sampleSchema.check true (.existing 9) shoutedProposal
    c.Respells shout c' ∧
      (c.finish .empty).result = ⟨false, ["Shoe", "hat"], [], ["title"], [], ["start"]⟩ ∧
      (c'.finish .empty).result = ⟨false, ["HAT", "shoe"], [], ["title"], [], ["start"]⟩ := by
  have hnames : NamesDiffer plainProposal := by decide +kernel
  have hplain : (plainProposal.toList.map fun e => Text.lower e.1) =
      ["shoe", "badge", "hat", "start", "title"] := by decide +kernel
  have hshouted : (plainProposal.toList.map fun e => Text.lower (shout e.1)) =
      ["shoe", "badge", "hat", "start", "title"] := by decide +kernel
  have hrecased : Recased shout plainProposal shoutedProposal := by
    refine ⟨List.map_inj_left.mp (hshouted.trans hplain.symm), ?_⟩
    exact @List.perm_middle (String × Json) ("shoe", .null)
      [("Badge", .ofInt 7), ("HAT", .bool true), ("START", .null)] [("title", .string "ab")]
  exact ⟨built_sampleSchema, hnames, hrecased,
    ignoresCase built_sampleSchema true _ hnames hrecased,
    by decide +kernel, by decide +kernel⟩

end Schema

end Provisioning
