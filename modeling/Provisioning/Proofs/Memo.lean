import Provisioning.Directory.Lookup
import Provisioning.Proofs.Catalogue
import Provisioning.Proofs.Session

/-!
A memo says what the catalogue says.

A memo that is told the answers of a catalogue remembers nothing else (`Memo.Reflects`). So for
every key that it has been told of, found or missing, its answer is that of the catalogue
(`Reflects.get?_eq`, `Reflects.getByName?_eq`), and work that looks things up may be judged by the
catalogue alone. A memo that is told anything at all still knows every entry by its name
(`Memo.Linked`).
-/

namespace Provisioning

namespace Memo

variable {α : Type} [Named α] {m : Memo α} {c : Catalogue α}

/-- All that is remembered is what the catalogue says. -/
structure Reflects (m : Memo α) (c : Catalogue α) : Prop where
  byId : ∀ id a, m.byId.get? id = some a → c.get? id = some a
  byName : ∀ name id, m.idByName.get? name = some id →
    ∃ a, m.byId.get? id = some a ∧ Named.name a = name
  missingNames : ∀ name ∈ m.missingNames, c.named? name = none
  missingIds : ∀ id ∈ m.missingIds, c.get? id = none

/-- Something is known of a name, be it that there is no entry. -/
def KnowsName (m : Memo α) (name : String) : Prop :=
  (m.idByName.get? name).isSome ∨ name ∈ m.missingNames

/-- Something is known of an identifier, be it that there is no entry. -/
def KnowsId (m : Memo α) (id : Uuid) : Prop := (m.byId.get? id).isSome ∨ id ∈ m.missingIds

lemma reflects_empty : (∅ : Memo α).Reflects c where
  byId _ _ h := by cases h
  byName _ _ h := by cases h
  missingNames _ h := absurd h (SortedSet.not_mem_empty _)
  missingIds _ h := absurd h (SortedSet.not_mem_empty _)

omit [Named α] in
lemma not_knowsName_empty (name : String) : ¬(∅ : Memo α).KnowsName name := by
  rintro (h | h)
  · cases h
  · exact SortedSet.not_mem_empty _ h

omit [Named α] in
lemma not_knowsId_empty (id : Uuid) : ¬(∅ : Memo α).KnowsId id := by
  rintro (h | h)
  · cases h
  · exact SortedSet.not_mem_empty _ h

omit [Named α] in
lemma mem_unseenNames {names : List String} {name : String} :
    name ∈ m.unseenNames names ↔ name ∈ names ∧ ¬m.KnowsName name := by
  unfold unseenNames KnowsName
  rw [SortedSet.mem_toList, SortedSet.mem_ofList, List.mem_filter]
  simp [SortedMap.contains, ← SortedSet.contains_iff]

omit [Named α] in
lemma mem_unseenIds {ids : List Uuid} {id : Uuid} :
    id ∈ m.unseenIds ids ↔ id ∈ ids ∧ ¬m.KnowsId id := by
  unfold unseenIds KnowsId
  rw [SortedSet.mem_toList, SortedSet.mem_ofList, List.mem_filter]
  simp [SortedMap.contains, ← SortedSet.contains_iff]

omit [Named α] in
/-- Keys that nothing is known of ascend. -/
lemma ascending_unseenNames (m : Memo α) (names : List String) :
    (m.unseenNames names).Pairwise fun a b => compare a b = .lt := SortedSet.ascending _

omit [Named α] in
lemma ascending_unseenIds (m : Memo α) (ids : List Uuid) :
    (m.unseenIds ids).Pairwise fun a b => compare a b = .lt := SortedSet.ascending _

/-! ### Answers about what is known -/

lemma Reflects.get?_eq (h : m.Reflects c) {id : Uuid} (hk : m.KnowsId id) :
    m.get? id = c.get? id := by
  unfold get?
  rcases hm : m.byId.get? id with _ | a
  · have hmiss : id ∈ m.missingIds := by simpa [KnowsId, hm] using hk
    exact (h.missingIds id hmiss).symm
  · exact (h.byId id a hm).symm

lemma Reflects.getByName?_spec (h : m.Reflects c) {name : String} {a : α}
    (ha : m.getByName? name = some a) : a ∈ c.values ∧ Named.name a = name := by
  obtain ⟨id, hid, hget⟩ := Option.bind_eq_some_iff.mp ha
  obtain ⟨b, hb, hname⟩ := h.byName name id hid
  obtain rfl : b = a := Option.some.inj (hb.symm.trans hget)
  exact ⟨(Catalogue.mem_values_of_get? (h.byId id b hb)).1, hname⟩

/-- A name that leads somewhere leads to an entry. -/
lemma Reflects.isSome_getByName? (h : m.Reflects c) {name : String}
    (hk : (m.idByName.get? name).isSome) : (m.getByName? name).isSome := by
  obtain ⟨id, hid⟩ := Option.isSome_iff_exists.mp hk
  obtain ⟨b, hb, -⟩ := h.byName name id hid
  simp [getByName?, hid, hb]

lemma Reflects.getByName?_eq (h : m.Reflects c) (hc : c.DistinctNames) {name : String}
    (hk : m.KnowsName name) : m.getByName? name = c.named? name := by
  rcases hk with hk | hk
  · obtain ⟨a, ha⟩ := Option.isSome_iff_exists.mp (h.isSome_getByName? hk)
    rw [ha, hc.named?_eq_some.mpr (h.getByName?_spec ha)]
  · have hnone := h.missingNames name hk
    rcases hm : m.getByName? name with _ | a
    · exact hnone.symm
    · rw [hc.named?_eq_some.mpr (h.getByName?_spec hm)] at hnone
      cases hnone

/-! ### Remembering entries -/

lemma Reflects.insert (h : m.Reflects c) {a : α} (ha : a ∈ c.values) : (m.insert a).Reflects c where
  byId id b hb := by
    simp only [Memo.insert, SortedMap.get?_insert] at hb
    split at hb
    next hid => cases hb; exact hid ▸ Catalogue.mem_values.mp ha
    next => exact h.byId id b hb
  byName name id hid := by
    simp only [Memo.insert, SortedMap.get?_insert] at hid ⊢
    split at hid
    next hname => cases hid; exact ⟨a, if_pos rfl, hname.symm⟩
    next =>
      obtain ⟨b, hb, hname⟩ := h.byName name id hid
      by_cases hab : id = Named.id a
      · -- the entry under this identifier is the one that is told again
        have hb' := h.byId id b hb
        rw [hab, Catalogue.mem_values.mp ha] at hb'
        cases hb'
        exact ⟨a, if_pos hab, hname⟩
      · exact ⟨b, by rw [if_neg hab, hb], hname⟩
  missingNames name hn := h.missingNames name (SortedSet.mem_erase.mp hn).1
  missingIds id hi := h.missingIds id (SortedSet.mem_erase.mp hi).1

lemma KnowsName.insert {name : String} (h : m.KnowsName name) (a : α) :
    (m.insert a).KnowsName name := by
  unfold KnowsName at h ⊢
  by_cases hn : name = Named.name a
  · left; simp [Memo.insert, hn]
  · simpa [Memo.insert, SortedMap.get?_insert, hn] using h

lemma KnowsId.insert {id : Uuid} (h : m.KnowsId id) (a : α) : (m.insert a).KnowsId id := by
  unfold KnowsId at h ⊢
  by_cases hi : id = Named.id a
  · left; simp [Memo.insert, hi]
  · simpa [Memo.insert, SortedMap.get?_insert, hi] using h

/-- Remembers entries one after the other. -/
def insertAll (m : Memo α) (found : List α) : Memo α := found.foldl Memo.insert m

lemma Reflects.insertAll (h : m.Reflects c) {found : List α} (hf : ∀ a ∈ found, a ∈ c.values) :
    (m.insertAll found).Reflects c := by
  unfold Memo.insertAll
  induction found generalizing m with
  | nil => exact h
  | cons a rest ih =>
    exact ih (h.insert (hf a List.mem_cons_self)) fun b hb => hf b (List.mem_cons_of_mem a hb)

lemma KnowsName.insertAll {name : String} (h : m.KnowsName name) (found : List α) :
    (m.insertAll found).KnowsName name := by
  unfold Memo.insertAll
  induction found generalizing m with
  | nil => exact h
  | cons a rest ih => exact ih (h.insert a)

lemma KnowsId.insertAll {id : Uuid} (h : m.KnowsId id) (found : List α) :
    (m.insertAll found).KnowsId id := by
  unfold Memo.insertAll
  induction found generalizing m with
  | nil => exact h
  | cons a rest ih => exact ih (h.insert a)

/-- After entries were told a name leads to the last of them with that name, or where it led
before. -/
lemma idByName_insertAll (m : Memo α) (found : List α) (name : String) :
    (m.insertAll found).idByName.get? name =
      (((found.filter fun a => Named.name a == name).getLast?.map Named.id).or
        (m.idByName.get? name)) := by
  unfold Memo.insertAll
  induction found generalizing m with
  | nil => rfl
  | cons a rest ih =>
    rw [List.foldl_cons, ih]
    by_cases hn : Named.name a = name
    · rcases hl : (rest.filter fun a => Named.name a == name).getLast? with _ | b <;>
        simp [Memo.insert, hn, hl, List.getLast?_cons]
    · simp [Memo.insert, hn, SortedMap.get?_insert_of_ne _ _ (Ne.symm hn)]

lemma byId_insertAll (h : m.Reflects c) {found : List α} (hf : ∀ a ∈ found, a ∈ c.values) {a : α}
    (ha : a ∈ found) : (m.insertAll found).byId.get? (Named.id a) = some a := by
  unfold Memo.insertAll
  induction found generalizing m with
  | nil => cases ha
  | cons b rest ih =>
    have hrest : ∀ d ∈ rest, d ∈ c.values := fun d hd => hf d (List.mem_cons_of_mem b hd)
    have hb := h.insert (hf b List.mem_cons_self)
    rcases List.mem_cons.mp ha with rfl | ha
    · have hk : (m.insert a).KnowsId (Named.id a) := Or.inl (by simp [Memo.insert])
      have hr := Reflects.insertAll hb hrest
      have := hr.get?_eq (hk.insertAll rest)
      exact this.trans (Catalogue.mem_values.mp (hf a List.mem_cons_self))
    · exact ih hb hrest ha

/-! ### Recording answers -/

lemma mem_foldl_insert {κ : Type} [Ord κ] [Std.TransOrd κ] [Std.LawfulEqOrd κ] {ks : List κ}
    {s : SortedSet κ} {k : κ} : k ∈ ks.foldl (fun s k => s.insert k) s ↔ k ∈ ks ∨ k ∈ s := by
  induction ks generalizing s with
  | nil => simp
  | cons d rest ih => rw [List.foldl_cons, ih, SortedSet.mem_insert, List.mem_cons]; grind

lemma mem_missingNames_recordByName {requested : List String} {found : List α} {name : String} :
    name ∈ (m.recordByName requested found).missingNames ↔
      (name ∈ requested ∧ ((m.insertAll found).idByName.get? name).isNone) ∨
        name ∈ (m.insertAll found).missingNames := by
  unfold recordByName
  rw [mem_foldl_insert, List.mem_filter]
  simp [SortedMap.contains, Memo.insertAll]

lemma mem_missingIds_recordById {requested : List Uuid} {found : List α} {id : Uuid} :
    id ∈ (m.recordById requested found).missingIds ↔
      (id ∈ requested ∧ ((m.insertAll found).byId.get? id).isNone) ∨
        id ∈ (m.insertAll found).missingIds := by
  unfold recordById
  rw [mem_foldl_insert, List.mem_filter]
  simp [SortedMap.contains, Memo.insertAll]

lemma Reflects.recordByName (h : m.Reflects c) (requested : List String) {found : List α}
    (hf : ∀ a, a ∈ found ↔ a ∈ c.values ∧ Named.name a ∈ requested) :
    (m.recordByName requested found).Reflects c := by
  have hall := h.insertAll fun a ha => ((hf a).mp ha).1
  refine ⟨hall.byId, hall.byName, fun name hn => ?_, hall.missingIds⟩
  rcases mem_missingNames_recordByName.mp hn with ⟨hreq, hnone⟩ | hmiss
  · rw [Catalogue.named?_eq_none]
    rintro a ha rfl
    -- an entry with this name would have been found, and the name would lead to it
    have hmem : a ∈ found.filter fun b => Named.name b == Named.name a := by
      simpa using (hf a).mpr ⟨ha, hreq⟩
    rw [idByName_insertAll, Option.isNone_iff_eq_none, Option.or_eq_none_iff] at hnone
    have hlast := List.getLast?_eq_none_iff.mp (Option.map_eq_none_iff.mp hnone.1)
    rw [hlast] at hmem
    cases hmem
  · exact hall.missingNames name hmiss

lemma Reflects.recordById (h : m.Reflects c) (requested : List Uuid) {found : List α}
    (hf : ∀ a, a ∈ found ↔ a ∈ c.values ∧ Named.id a ∈ requested) :
    (m.recordById requested found).Reflects c := by
  have hall := h.insertAll fun a ha => ((hf a).mp ha).1
  refine ⟨hall.byId, hall.byName, hall.missingNames, fun id hi => ?_⟩
  rcases mem_missingIds_recordById.mp hi with ⟨hreq, hnone⟩ | hmiss
  · rcases hget : c.get? id with _ | a
    · rfl
    · obtain ⟨ha, rfl⟩ := Catalogue.mem_values_of_get? hget
      have hbyId := byId_insertAll h (fun b hb => ((hf b).mp hb).1) ((hf a).mpr ⟨ha, hreq⟩)
      rw [hbyId] at hnone
      cases hnone
  · exact hall.missingIds id hmiss

lemma knowsName_recordByName {requested : List String} {found : List α} {name : String}
    (h : name ∈ requested ∨ m.KnowsName name) :
    (m.recordByName requested found).KnowsName name := by
  unfold KnowsName
  rw [mem_missingNames_recordByName]
  change ((m.insertAll found).idByName.get? name).isSome ∨ _
  rcases h with h | h
  · rcases hget : (m.insertAll found).idByName.get? name with _ | id <;> simp [h]
  · rcases h.insertAll found with hs | hm
    · exact Or.inl hs
    · exact Or.inr (Or.inr hm)

lemma knowsId_recordById {requested : List Uuid} {found : List α} {id : Uuid}
    (h : id ∈ requested ∨ m.KnowsId id) : (m.recordById requested found).KnowsId id := by
  unfold KnowsId
  rw [mem_missingIds_recordById]
  change ((m.insertAll found).byId.get? id).isSome ∨ _
  rcases h with h | h
  · rcases hget : (m.insertAll found).byId.get? id with _ | a <;> simp [h]
  · rcases h.insertAll found with hs | hm
    · exact Or.inl hs
    · exact Or.inr (Or.inr hm)

lemma KnowsName.recordById {name : String} (h : m.KnowsName name) (requested : List Uuid)
    (found : List α) : (m.recordById requested found).KnowsName name :=
  h.insertAll found

lemma KnowsId.recordByName {id : Uuid} (h : m.KnowsId id) (requested : List String)
    (found : List α) : (m.recordByName requested found).KnowsId id :=
  h.insertAll found

/-- A name that was asked for leads to what it stands for, also where names are not distinct. -/
lemma getByName?_recordByName (h : m.Reflects c) {requested : List String} {name : String}
    (hn : name ∈ requested) :
    (m.recordByName requested (c.withNames requested)).getByName? name = c.named? name := by
  have hf : ∀ a ∈ c.withNames requested, a ∈ c.values := fun a ha =>
    (Catalogue.mem_withNames.mp ha).1
  have hfilter : ((c.withNames requested).filter fun a => Named.name a == name) =
      c.values.filter fun a => Named.name a == name := by
    unfold Catalogue.withNames
    rw [List.filter_filter]
    refine List.filter_congr fun a _ => ?_
    by_cases ha : Named.name a = name <;> simp [ha, hn]
  change ((m.insertAll (c.withNames requested)).idByName.get? name).bind
    (m.insertAll (c.withNames requested)).byId.get? = _
  rw [idByName_insertAll, hfilter]
  change ((c.named? name).map Named.id |>.or (m.idByName.get? name)).bind _ = _
  rcases hnamed : c.named? name with _ | a
  · -- nothing has the name, so it led nowhere before
    rcases hold : m.idByName.get? name with _ | id
    · rfl
    · obtain ⟨b, hb, hname⟩ := h.byName name id hold
      have hmem := (Catalogue.mem_values_of_get? (h.byId id b hb)).1
      exact absurd hname (Catalogue.named?_eq_none.mp hnamed b hmem)
  · obtain ⟨ha, hname⟩ := Catalogue.named?_spec hnamed
    exact byId_insertAll h hf (Catalogue.mem_withNames.mpr ⟨ha, hname ▸ hn⟩)

/-! ### Entries and their names -/

/-- Every entry is known by its name, and every name that is known leads to an entry. -/
structure Linked (m : Memo α) : Prop where
  named : ∀ id a, m.byId.get? id = some a → (m.idByName.get? (Named.name a)).isSome
  found : ∀ name id, m.idByName.get? name = some id → (m.byId.get? id).isSome

lemma linked_empty : (∅ : Memo α).Linked where
  named _ _ h := by cases h
  found _ _ h := by cases h

/-- Whatever entry is told, though it may have the name or the identifier of another one. -/
lemma Linked.insert (h : m.Linked) (a : α) : (m.insert a).Linked where
  named id b hb := by
    simp only [Memo.insert, SortedMap.get?_insert] at hb ⊢
    split at hb
    next => cases hb; simp
    next => split <;> simp [h.named id b hb]
  found name id hid := by
    simp only [Memo.insert, SortedMap.get?_insert] at hid ⊢
    split at hid
    next => cases hid; simp
    next => split <;> simp [h.found name id hid]

lemma Linked.insertAll (h : m.Linked) (found : List α) : (m.insertAll found).Linked := by
  unfold Memo.insertAll
  induction found generalizing m with
  | nil => exact h
  | cons a rest ih => exact ih (h.insert a)

lemma Linked.recordByName (h : m.Linked) (requested : List String) (found : List α) :
    (m.recordByName requested found).Linked :=
  ⟨(h.insertAll found).named, (h.insertAll found).found⟩

lemma Linked.recordById (h : m.Linked) (requested : List Uuid) (found : List α) :
    (m.recordById requested found).Linked :=
  ⟨(h.insertAll found).named, (h.insertAll found).found⟩

/-- The name of an entry leads to an entry, if not to the same. -/
lemma Linked.isSome_getByName? (h : m.Linked) {id : Uuid} {a : α} (ha : m.get? id = some a) :
    (m.getByName? (Named.name a)).isSome := by
  obtain ⟨id', hid'⟩ := Option.isSome_iff_exists.mp (h.named id a ha)
  obtain ⟨b, hb⟩ := Option.isSome_iff_exists.mp (h.found _ id' hid')
  simp [getByName?, hid', hb]

/-- A name that leads to an entry still does when others are told. -/
lemma Linked.isSome_getByName?_insertAll (h : m.Linked) {name : String}
    (hname : (m.getByName? name).isSome) (found : List α) :
    ((m.insertAll found).getByName? name).isSome := by
  obtain ⟨a, ha⟩ := Option.isSome_iff_exists.mp hname
  obtain ⟨id, hid, -⟩ := Option.bind_eq_some_iff.mp ha
  have hsome : ((m.insertAll found).idByName.get? name).isSome := by
    rw [idByName_insertAll, hid, Option.isSome_or]
    simp
  obtain ⟨id', hid'⟩ := Option.isSome_iff_exists.mp hsome
  obtain ⟨b, hb⟩ := Option.isSome_iff_exists.mp ((h.insertAll found).found name id' hid')
  simp [getByName?, hid', hb]

omit [Named α] in
lemma knowsName_of_isSome {name : String} (h : (m.getByName? name).isSome) :
    m.KnowsName name := by
  obtain ⟨a, ha⟩ := Option.isSome_iff_exists.mp h
  obtain ⟨id, hid, -⟩ := Option.bind_eq_some_iff.mp ha
  exact Or.inl (by rw [hid]; rfl)

/-- Memos that come about by telling answers, whatever these are. -/
inductive Recorded : Memo α → Prop where
  | empty : Recorded ∅
  | byName {m : Memo α} (h : Recorded m) (requested : List String) (found : List α) :
    Recorded (m.recordByName requested found)
  | byId {m : Memo α} (h : Recorded m) (requested : List Uuid) (found : List α) :
    Recorded (m.recordById requested found)

lemma Recorded.linked (h : m.Recorded) : m.Linked := by
  induction h with
  | empty => exact linked_empty
  | byName _ requested found ih => exact ih.recordByName requested found
  | byId _ requested found ih => exact ih.recordById requested found

/-- Memos that come about by telling the answers of a catalogue. -/
inductive Told (c : Catalogue α) : Memo α → Prop where
  | empty : Told c ∅
  | byName {m : Memo α} (h : Told c m) (requested : List String) {found : List α}
    (hfound : ∀ a, a ∈ found ↔ a ∈ c.values ∧ Named.name a ∈ requested) :
    Told c (m.recordByName requested found)
  | byId {m : Memo α} (h : Told c m) (requested : List Uuid) {found : List α}
    (hfound : ∀ a, a ∈ found ↔ a ∈ c.values ∧ Named.id a ∈ requested) :
    Told c (m.recordById requested found)

lemma Told.linked (h : m.Told c) : m.Linked := by
  induction h with
  | empty => exact linked_empty
  | byName _ requested _ ih => exact ih.recordByName requested _
  | byId _ requested _ ih => exact ih.recordById requested _

lemma Told.reflects (h : m.Told c) : m.Reflects c := by
  induction h with
  | empty => exact reflects_empty
  | byName _ requested hfound ih => exact ih.recordByName requested hfound
  | byId _ requested hfound ih => exact ih.recordById requested hfound

end Memo

end Provisioning
