import Mathlib.Data.List.Induction
import Mathlib.Data.List.Nodup
import Provisioning.Proofs.Host

/-!
What is stored for users.

Rows are stored one after the other, so of several for one attribute of a user the last one counts,
and what is cleared afterwards has no value at all. The rows and the clears of an outcome are all of
its user, so nothing changes for any other.
-/

namespace Provisioning

namespace ValueRow

/-- What a row gives a value to: an attribute of a user. -/
def key (row : ValueRow) : Uuid × Uuid := (row.user, row.attributeId)

/-- The value that the last row with a key gives it. -/
def latest? (rows : List ValueRow) (key : Uuid × Uuid) : Option String :=
  ((rows.filter fun row => row.key == key).getLast?).map ValueRow.value

variable {rows : List ValueRow} {key : Uuid × Uuid}

lemma latest?_append_singleton (rows : List ValueRow) (row : ValueRow) (key : Uuid × Uuid) :
    latest? (rows ++ [row]) key = if row.key = key then some row.value else latest? rows key := by
  unfold latest?
  rw [List.filter_append]
  split
  next h => simp [h]
  next h => simp [h]

lemma mem_of_latest? {value : String} (h : latest? rows key = some value) :
    ∃ row ∈ rows, row.key = key ∧ row.value = value := by
  obtain ⟨row, hlast, hvalue⟩ := Option.map_eq_some_iff.mp h
  have hmem := List.mem_filter.mp (List.mem_of_getLast? hlast)
  exact ⟨row, hmem.1, beq_iff_eq.mp hmem.2, hvalue⟩

lemma latest?_eq_none : latest? rows key = none ↔ ∀ row ∈ rows, row.key ≠ key := by
  simp [latest?]

/-- Where no two rows have one key, every row counts. -/
lemma latest?_of_mem (hrows : (rows.map ValueRow.key).Nodup) {row : ValueRow} (h : row ∈ rows) :
    latest? rows row.key = some row.value := by
  rcases hlatest : latest? rows row.key with _ | value
  · exact absurd rfl (latest?_eq_none.mp hlatest row h)
  · obtain ⟨row', hmem, hkey, rfl⟩ := mem_of_latest? hlatest
    rw [List.inj_on_of_nodup_map hrows hmem h hkey]

end ValueRow

/-! ### Storing rows and clearing values -/

namespace Tenant

variable (t : Tenant)

lemma valueOf_storeRow (row : ValueRow) (user attributeId : Uuid) :
    (t.storeRow row).valueOf user attributeId =
      if row.key = (user, attributeId) then some row.value else t.valueOf user attributeId := by
  unfold storeRow valueOf ValueRow.key
  rw [SortedMap.get?_insert]
  simp only [Prod.mk.injEq]
  by_cases huser : user = row.user
  · subst huser
    simp only [true_and, Option.bind_some, if_true, SortedMap.get?_insert, eq_comm]
    split
    · rfl
    · cases t.values.get? row.user <;> rfl
  · rw [if_neg huser, if_neg fun h => huser h.1.symm]

lemma valueOf_clearValue (key : Uuid × Uuid) (user attributeId : Uuid) :
    (t.clearValue key.1 key.2).valueOf user attributeId =
      if key = (user, attributeId) then none else t.valueOf user attributeId := by
  obtain ⟨user', attributeId'⟩ := key
  unfold clearValue valueOf
  simp only [Prod.mk.injEq]
  by_cases huser : user = user'
  · subst huser
    rcases h : t.values.get? user with _ | values
    · simp [h]
    · simp [SortedMap.get?_erase, eq_comm]
  · rw [if_neg fun h => huser h.1.symm]
    split
    next => rw [SortedMap.get?_insert_of_ne _ _ huser]
    next => rfl

/-- The last row for an attribute of a user counts. -/
lemma valueOf_storeRows (rows : List ValueRow) (user attributeId : Uuid) :
    (rows.foldl storeRow t).valueOf user attributeId =
      (ValueRow.latest? rows (user, attributeId)).or (t.valueOf user attributeId) := by
  induction rows using List.reverseRecOn with
  | nil => rfl
  | append_singleton rows row ih =>
    rw [List.foldl_append, List.foldl_cons, List.foldl_nil, valueOf_storeRow, ih,
      ValueRow.latest?_append_singleton]
    split <;> rfl

lemma valueOf_clearValues (cleared : List (Uuid × Uuid)) (user attributeId : Uuid) :
    (cleared.foldl (fun t key => t.clearValue key.1 key.2) t).valueOf user attributeId =
      if (user, attributeId) ∈ cleared then none else t.valueOf user attributeId := by
  induction cleared generalizing t with
  | nil => rfl
  | cons key rest ih =>
    rw [List.foldl_cons, ih, valueOf_clearValue]
    by_cases hkey : key = (user, attributeId)
    · simp [hkey]
    · simp [hkey, Ne.symm hkey]

lemma valueOf_storeValues (rows : List ValueRow) (cleared : List (Uuid × Uuid))
    (user attributeId : Uuid) :
    (t.storeValues rows cleared).valueOf user attributeId =
      if (user, attributeId) ∈ cleared then none
      else (ValueRow.latest? rows (user, attributeId)).or (t.valueOf user attributeId) := by
  unfold storeValues
  rw [valueOf_clearValues, valueOf_storeRows]

/-- What is stored after an outcome: no value where one is cleared, else what its rows say, and
else what was there. -/
lemma valueOf_store (o : Outcome) (user attributeId : Uuid) :
    (t.store o).valueOf user attributeId =
      if user = o.user ∧ attributeId ∈ o.cleared then none
      else (ValueRow.latest? o.rows (user, attributeId)).or (t.valueOf user attributeId) := by
  have hstored := t.valueOf_storeValues o.rows
    (o.cleared.map fun attributeId => (o.user, attributeId)) user attributeId
  have hmem : (user, attributeId) ∈ o.cleared.map (fun attributeId => (o.user, attributeId)) ↔
      user = o.user ∧ attributeId ∈ o.cleared := by
    simp [and_comm, eq_comm]
  rw [if_congr hmem rfl rfl] at hstored
  rw [← hstored]
  unfold store
  split <;> rfl

end Tenant

end Provisioning
