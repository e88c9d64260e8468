import Mathlib.Data.List.Nodup
import Provisioning.Directory.Catalogue

/-!
What names stand for in a catalogue.

A name stands for the entry with that name; of several, for the one with the largest identifier.
Where names are distinct there is only one, and the name and the identifier of an entry stand for
the same thing.
-/

namespace Provisioning.Catalogue

variable {α : Type} [Named α] {c : Catalogue α}

/-- The entry that a name stands for. -/
def named? (c : Catalogue α) (name : String) : Option α :=
  (c.values.filter fun a => Named.name a == name).getLast?

/-- No two entries have one name. -/
def DistinctNames (c : Catalogue α) : Prop :=
  ∀ a ∈ c.values, ∀ b ∈ c.values, Named.name a = Named.name b → a = b

instance [DecidableEq α] : Decidable c.DistinctNames :=
  inferInstanceAs (Decidable (∀ a ∈ c.values, ∀ b ∈ c.values, _ → a = b))

lemma mem_values {a : α} : a ∈ c.values ↔ c.get? (Named.id a) = some a := by
  unfold values get?
  rw [SortedMap.mem_values_iff]
  constructor
  · rintro ⟨id, h⟩
    rw [c.keyed id a h]
    exact h
  · exact fun h => ⟨_, h⟩

lemma mem_values_of_get? {id : Uuid} {a : α} (h : c.get? id = some a) :
    a ∈ c.values ∧ Named.id a = id := by
  have hid := c.keyed id a h
  exact ⟨mem_values.mpr (hid.symm ▸ h), hid⟩

lemma mem_withNames {names : List String} {a : α} :
    a ∈ c.withNames names ↔ a ∈ c.values ∧ Named.name a ∈ names := by
  simp [withNames]

lemma mem_withIds {ids : List Uuid} {a : α} :
    a ∈ c.withIds ids ↔ a ∈ c.values ∧ Named.id a ∈ ids := by
  unfold withIds
  rw [List.mem_filterMap]
  constructor
  · rintro ⟨id, hid, h⟩
    obtain ⟨hmem, rfl⟩ := mem_values_of_get? h
    exact ⟨hmem, hid⟩
  · rintro ⟨hmem, hid⟩
    exact ⟨_, hid, mem_values.mp hmem⟩

lemma named?_spec {name : String} {a : α} (h : c.named? name = some a) :
    a ∈ c.values ∧ Named.name a = name := by
  have hmem := List.mem_of_getLast? h
  simpa using hmem

lemma named?_eq_none {name : String} :
    c.named? name = none ↔ ∀ a ∈ c.values, Named.name a ≠ name := by
  simp [named?]

/-- The names that stand for something are the names of the entries. -/
lemma named?_isSome {name : String} :
    (c.named? name).isSome ↔ ∃ a ∈ c.values, Named.name a = name := by
  rcases h : c.named? name with _ | a
  · have hnone := named?_eq_none.mp h
    simpa using hnone
  · have ha := named?_spec h
    simpa using ⟨a, ha⟩

lemma DistinctNames.named?_eq_some (h : c.DistinctNames) {name : String} {a : α} :
    c.named? name = some a ↔ a ∈ c.values ∧ Named.name a = name := by
  refine ⟨named?_spec, ?_⟩
  rintro ⟨hmem, hname⟩
  obtain ⟨b, hb⟩ := Option.isSome_iff_exists.mp (named?_isSome.mpr ⟨a, hmem, hname⟩)
  obtain ⟨hbmem, hbname⟩ := named?_spec hb
  rw [hb, h b hbmem a hmem (hbname.trans hname.symm)]

/-- An entry is what its own name stands for. -/
lemma DistinctNames.named?_name (h : c.DistinctNames) {id : Uuid} {a : α}
    (ha : c.get? id = some a) : c.named? (Named.name a) = some a :=
  h.named?_eq_some.mpr ⟨(mem_values_of_get? ha).1, rfl⟩

end Provisioning.Catalogue
