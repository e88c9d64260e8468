import Provisioning.Directory.Catalogue
import Provisioning.Directory.Session

/-!
What has been learnt about roles and accounts within one request.

A memo remembers the entries it was told of, under their identifiers and names, and the keys that
were asked for in vain. It says which keys nothing is known of, and only those are asked for: no key
is asked for twice.
-/

namespace Provisioning

/-- What has been learnt about things of one sort. -/
structure Memo (α : Type) where
  byId : SortedMap Uuid α
  idByName : SortedMap String Uuid
  missingNames : SortedSet String
  missingIds : SortedSet Uuid

namespace Memo

variable {α : Type} [Named α]

def empty : Memo α := ⟨∅, ∅, ∅, ∅⟩

instance : EmptyCollection (Memo α) := ⟨empty⟩

instance : Inhabited (Memo α) := ⟨empty⟩

def get? (m : Memo α) (id : Uuid) : Option α := m.byId.get? id

def getByName? (m : Memo α) (name : String) : Option α :=
  (m.idByName.get? name).bind m.byId.get?

/-- The names that are neither known nor known to be missing, in order and without repetition. -/
def unseenNames (m : Memo α) (names : List String) : List String :=
  (SortedSet.ofList (names.filter fun n =>
    !m.idByName.contains n && !m.missingNames.contains n)).toList

/-- The identifiers that are neither known nor known to be missing, in order and without
repetition. -/
def unseenIds (m : Memo α) (ids : List Uuid) : List Uuid :=
  (SortedSet.ofList (ids.filter fun i => !m.byId.contains i && !m.missingIds.contains i)).toList

def insert (m : Memo α) (a : α) : Memo α where
  byId := m.byId.insert (Named.id a) a
  idByName := m.idByName.insert (Named.name a) (Named.id a)
  missingNames := m.missingNames.erase (Named.name a)
  missingIds := m.missingIds.erase (Named.id a)

/-- Remembers the entries found for names, and which names they leave without one. -/
def recordByName (m : Memo α) (requested : List String) (found : List α) : Memo α :=
  let m := found.foldl insert m
  { m with
    missingNames := (requested.filter fun n => !m.idByName.contains n).foldl
      (fun s n => s.insert n) m.missingNames }

/-- Remembers the entries found for identifiers, and which identifiers they leave without one. -/
def recordById (m : Memo α) (requested : List Uuid) (found : List α) : Memo α :=
  let m := found.foldl insert m
  { m with
    missingIds := (requested.filter fun i => !m.byId.contains i).foldl
      (fun s i => s.insert i) m.missingIds }

end Memo

/-- What has been learnt about roles and accounts. -/
structure Lookups where
  roles : Memo Role
  accounts : Memo Account

namespace Lookups

def empty : Lookups := ⟨∅, ∅⟩

instance : EmptyCollection Lookups := ⟨empty⟩

instance : Inhabited Lookups := ⟨empty⟩

end Lookups

/-- Work that asks questions and remembers what it learns. -/
abbrev Resolving (α : Type) : Type := StateT Lookups Session α

namespace Resolving

def fail {α : Type} (e : Failure) : Resolving α := fun _ => .fail e

/-- The roles with the given names; no names need no question. -/
def fetchRolesByName (names : List String) : Session (List Role) :=
  if names.isEmpty then pure [] else .query (.rolesByName names)

/-- The roles with the given identifiers; no identifiers need no question. -/
def fetchRolesById (ids : List Uuid) : Session (List Role) :=
  if ids.isEmpty then pure [] else .query (.rolesById ids)

/-- The accounts with the given names; no names need no question. -/
def fetchAccountsByName (names : List String) : Session (List Account) :=
  if names.isEmpty then pure [] else .query (.accountsByName names)

/-- The accounts with the given identifiers; no identifiers need no question. -/
def fetchAccountsById (ids : List Uuid) : Session (List Account) :=
  if ids.isEmpty then pure [] else .query (.accountsById ids)

/-- Learns of the roles with the given names, as far as nothing is known of them. -/
def loadRolesByName (names : List String) : Resolving Unit := do
  let unseen := (← get).roles.unseenNames names
  let found ← fetchRolesByName unseen
  modify fun l => { l with roles := l.roles.recordByName unseen found }

/-- Learns of the roles with the given identifiers, as far as nothing is known of them. -/
def loadRolesById (ids : List Uuid) : Resolving Unit := do
  let unseen := (← get).roles.unseenIds ids
  let found ← fetchRolesById unseen
  modify fun l => { l with roles := l.roles.recordById unseen found }

end Resolving

end Provisioning
