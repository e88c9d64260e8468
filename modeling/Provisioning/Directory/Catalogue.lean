import Provisioning.Role.Basic
import Provisioning.SortedMap

/-!
Roles and accounts under their identifiers.

A catalogue keeps each entry under the identifier of the entry itself, so an identifier found is the
identifier looked for. Names need not be distinct.
-/

namespace Provisioning

/-- Things with an identifier and a name. -/
class Named (α : Type) where
  id : α → Uuid
  name : α → String

instance : Named Role := ⟨Role.id, Role.name⟩

instance : Named Account := ⟨Account.id, Account.name⟩

/-- Entries under their own identifiers. -/
structure Catalogue (α : Type) [Named α] where
  entries : SortedMap Uuid α
  keyed : ∀ id a, entries.get? id = some a → Named.id a = id

namespace Catalogue

variable {α : Type} [Named α]

instance [DecidableEq α] : DecidableEq (Catalogue α) := fun c d =>
  decidable_of_iff (c.entries = d.entries) (by cases c; cases d; simp)

def empty : Catalogue α := ⟨∅, fun _ _ h => by cases h⟩

instance : EmptyCollection (Catalogue α) := ⟨empty⟩

/-- Puts an entry under its identifier, replacing the one that was there. -/
def insert (c : Catalogue α) (a : α) : Catalogue α where
  entries := c.entries.insert (Named.id a) a
  keyed id b h := by
    rw [SortedMap.get?_insert] at h
    split at h
    next hid => cases h; exact hid.symm
    next => exact c.keyed id b h

def erase (c : Catalogue α) (id : Uuid) : Catalogue α where
  entries := c.entries.erase id
  keyed id' b h := by
    rw [SortedMap.get?_erase] at h
    split at h
    next => cases h
    next => exact c.keyed id' b h

def get? (c : Catalogue α) (id : Uuid) : Option α := c.entries.get? id

def contains (c : Catalogue α) (id : Uuid) : Bool := c.entries.contains id

def values (c : Catalogue α) : List α := c.entries.values

/-- The entries with one of the given names, by ascending identifier. -/
def withNames (c : Catalogue α) (names : List String) : List α :=
  c.values.filter fun a => names.contains (Named.name a)

/-- The entries with the given identifiers, in the order given. -/
def withIds (c : Catalogue α) (ids : List Uuid) : List α := ids.filterMap c.get?

end Catalogue

end Provisioning
