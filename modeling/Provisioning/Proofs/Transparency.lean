import Mathlib.Data.List.Pairwise
import Provisioning.Proofs.Memo

/-!
What a memo says is what it was told.

A memo is determined by the entries that it was told of and the keys that were asked for
(`Memo.Holds`, `Memo.Holds.eq`). An entry is known under both its keys, whichever of them it was
asked for by, and also if the other one was missing until then. A key is missing if it was asked for
and no entry has it. If all that was told are answers of one catalogue, then every key that was
asked for is answered as by the catalogue, and is never asked for again
(`Lookups.transparent_learn`).
-/

namespace Provisioning

namespace Memo

variable {α : Type}

/-! ### Answers that are remembered -/

/-- The keys that were asked for, and the entries that were found for them. -/
inductive Reply (α : Type) where
  | byName (requested : List String) (found : List α)
  | byId (requested : List Uuid) (found : List α)

namespace Reply

/-- The names that were asked for. -/
def names : Reply α → List String
  | byName requested _ => requested
  | byId _ _ => []

/-- The identifiers that were asked for. -/
def ids : Reply α → List Uuid
  | byName _ _ => []
  | byId requested _ => requested

def found : Reply α → List α
  | byName _ found => found
  | byId _ found => found

end Reply

variable [Named α]

/-- The entries found are those of the catalogue with a key that was asked for, in any order. -/
def Reply.Answers (c : Catalogue α) (r : Reply α) : Prop :=
  ∀ a, a ∈ r.found ↔ a ∈ c.values ∧ (Named.name a ∈ r.names ∨ Named.id a ∈ r.ids)

def record (m : Memo α) : Reply α → Memo α
  | .byName requested found => m.recordByName requested found
  | .byId requested found => m.recordById requested found

/-- Remembers answers one after the other. -/
def learn (m : Memo α) (replies : List (Reply α)) : Memo α := replies.foldl record m

variable {m m' : Memo α} {c : Catalogue α} {replies replies' : List (Reply α)}
  {told told' found : List α} {names names' : List String} {ids ids' : List Uuid} {a : α}

lemma Reply.answers_byName {requested : List String} (h : found.Perm (c.withNames requested)) :
    (Reply.byName requested found).Answers c := fun a => by
  simp [Reply.found, Reply.names, Reply.ids, h.mem_iff, Catalogue.mem_withNames]

lemma Reply.answers_byId {requested : List Uuid} (h : found.Perm (c.withIds requested)) :
    (Reply.byId requested found).Answers c := fun a => by
  simp [Reply.found, Reply.names, Reply.ids, h.mem_iff, Catalogue.mem_withIds]

/-! ### A memo and what it was told -/

/-- No two entries have a name or an identifier in common. -/
def Unambiguous (as : List α) : Prop :=
  ∀ a ∈ as, ∀ b ∈ as, Named.name a = Named.name b ∨ Named.id a = Named.id b → a = b

lemma Unambiguous.subset {as bs : List α} (h : Unambiguous bs) (hs : as ⊆ bs) : Unambiguous as :=
  fun a ha b hb => h a (hs ha) b (hs hb)

lemma unambiguous_of_catalogue (hc : c.DistinctNames) (h : ∀ a ∈ told, a ∈ c.values) :
    Unambiguous told := by
  rintro a ha b hb (hname | hid)
  · exact hc a (h a ha) b (h b hb) hname
  · have hget := Catalogue.mem_values.mp (h a ha)
    rw [hid, Catalogue.mem_values.mp (h b hb)] at hget
    exact (Option.some.inj hget).symm

/-- The entries told of are known under their keys and nothing else is; and those keys are missing
that were asked for and that no entry told of has. -/
structure Holds (m : Memo α) (told : List α) (names : List String) (ids : List Uuid) : Prop where
  byId : ∀ id a, m.byId.get? id = some a ↔ a ∈ told ∧ Named.id a = id
  idByName : ∀ name id, m.idByName.get? name = some id ↔
    ∃ a ∈ told, Named.name a = name ∧ Named.id a = id
  missingNames : ∀ name, name ∈ m.missingNames ↔ name ∈ names ∧ ∀ a ∈ told, Named.name a ≠ name
  missingIds : ∀ id, id ∈ m.missingIds ↔ id ∈ ids ∧ ∀ a ∈ told, Named.id a ≠ id

lemma holds_empty : (∅ : Memo α).Holds [] [] [] where
  byId _ _ := iff_of_false (fun h => by cases h) (by simp)
  idByName _ _ := iff_of_false (fun h => by cases h) (by simp)
  missingNames name := iff_of_false (SortedSet.not_mem_empty name) (by simp)
  missingIds id := iff_of_false (SortedSet.not_mem_empty id) (by simp)

namespace Holds

variable (h : m.Holds told names ids)
include h

lemma isSome_byId {id : Uuid} : (m.byId.get? id).isSome ↔ ∃ a ∈ told, Named.id a = id := by
  simp [Option.isSome_iff_exists, h.byId]

lemma isSome_idByName {name : String} :
    (m.idByName.get? name).isSome ↔ ∃ a ∈ told, Named.name a = name := by
  simp only [Option.isSome_iff_exists, h.idByName]
  exact ⟨fun ⟨_, a, ha, hname, _⟩ => ⟨a, ha, hname⟩, fun ⟨a, ha, hname⟩ => ⟨_, a, ha, hname, rfl⟩⟩

/-- Telling of an entry takes its keys from those that are missing. -/
lemma insert (hu : Unambiguous (told ++ [a])) : (m.insert a).Holds (told ++ [a]) names ids where
  byId id b := by
    -- what had the identifier before was the same entry, so nothing is lost
    have hsame : b ∈ told → Named.id b = Named.id a → b = a := fun hb hid =>
      hu b (by simp [hb]) a (by simp) (.inr hid)
    simp only [Memo.insert, SortedMap.get?_insert]
    split
    next hid => subst hid; grind
    next hid => rw [h.byId]; grind
  idByName name id := by
    have hsame : ∀ b ∈ told, Named.name b = Named.name a → b = a := fun b hb hname =>
      hu b (by simp [hb]) a (by simp) (.inl hname)
    simp only [Memo.insert, SortedMap.get?_insert]
    split
    next hname => subst hname; grind
    next hname => rw [h.idByName]; grind
  missingNames name := by
    simp only [Memo.insert, SortedSet.mem_erase, h.missingNames]
    grind
  missingIds id := by
    simp only [Memo.insert, SortedSet.mem_erase, h.missingIds]
    grind

lemma insertAll (hu : Unambiguous (told ++ found)) :
    (m.insertAll found).Holds (told ++ found) names ids := by
  unfold Memo.insertAll
  induction found generalizing m told with
  | nil => simpa using h
  | cons a rest ih =>
    have hsplit : told ++ a :: rest = (told ++ [a]) ++ rest := by simp
    rw [hsplit] at hu ⊢
    exact ih (h.insert (hu.subset (List.subset_append_left _ _))) hu

lemma recordByName {requested : List String} (hu : Unambiguous (told ++ found)) :
    (m.recordByName requested found).Holds (told ++ found) (names ++ requested) ids := by
  have hall := h.insertAll hu
  refine ⟨hall.byId, hall.idByName, fun name => ?_, hall.missingIds⟩
  have hnone : ((m.insertAll found).idByName.get? name).isNone ↔
      ∀ a ∈ told ++ found, Named.name a ≠ name := by
    rw [Option.isNone_iff_eq_none, ← Option.not_isSome_iff_eq_none, hall.isSome_idByName]
    simp
  rw [mem_missingNames_recordByName, hall.missingNames, hnone, List.mem_append, or_and_right,
    or_comm]

lemma recordById {requested : List Uuid} (hu : Unambiguous (told ++ found)) :
    (m.recordById requested found).Holds (told ++ found) names (ids ++ requested) := by
  have hall := h.insertAll hu
  refine ⟨hall.byId, hall.idByName, hall.missingNames, fun id => ?_⟩
  have hnone : ((m.insertAll found).byId.get? id).isNone ↔
      ∀ a ∈ told ++ found, Named.id a ≠ id := by
    rw [Option.isNone_iff_eq_none, ← Option.not_isSome_iff_eq_none, hall.isSome_byId]
    simp
  rw [mem_missingIds_recordById, hall.missingIds, hnone, List.mem_append, or_and_right, or_comm]

lemma record {r : Reply α} (hu : Unambiguous (told ++ r.found)) :
    (m.record r).Holds (told ++ r.found) (names ++ r.names) (ids ++ r.ids) := by
  cases r with
  | byName requested found =>
    change (m.recordByName requested found).Holds _ _ (ids ++ [])
    rw [List.append_nil]
    exact h.recordByName hu
  | byId requested found =>
    change (m.recordById requested found).Holds _ (names ++ []) _
    rw [List.append_nil]
    exact h.recordById hu

/-- After a run of answers a memo holds what all of them told. -/
lemma learn (hu : Unambiguous (told ++ replies.flatMap Reply.found)) :
    (m.learn replies).Holds (told ++ replies.flatMap Reply.found)
      (names ++ replies.flatMap Reply.names) (ids ++ replies.flatMap Reply.ids) := by
  unfold Memo.learn
  -- what was told before grows with each answer
  induction replies generalizing m told names ids with
  | nil => simpa using h
  | cons r rest ih =>
    simp only [List.flatMap_cons, ← List.append_assoc] at hu ⊢
    exact ih (h.record (hu.subset (List.subset_append_left _ _))) hu

/-- There is only one memo that holds what was told, in whatever order it was told. -/
lemma eq (h' : m'.Holds told' names' ids') (htold : ∀ a, a ∈ told ↔ a ∈ told')
    (hnames : ∀ name, name ∈ names ↔ name ∈ names') (hids : ∀ id, id ∈ ids ↔ id ∈ ids') :
    m = m' := by
  have hbyId : m.byId = m'.byId := SortedMap.ext_get? fun id => Option.ext fun a => by
    rw [h.byId, h'.byId, htold]
  have hidByName : m.idByName = m'.idByName := SortedMap.ext_get? fun name =>
    Option.ext fun id => by simp only [h.idByName, h'.idByName, htold]
  have hmissingNames : m.missingNames = m'.missingNames := SortedSet.ext_mem fun name => by
    simp only [h.missingNames, h'.missingNames, htold, hnames]
  have hmissingIds : m.missingIds = m'.missingIds := SortedSet.ext_mem fun id => by
    simp only [h.missingIds, h'.missingIds, htold, hids]
  cases m
  cases m'
  simp only [Memo.mk.injEq]
  exact ⟨hbyId, hidByName, hmissingNames, hmissingIds⟩

end Holds

/-! ### Looking up by either key -/

/-- One way to look entries up, by name or by identifier: the key of an entry, the answer for a key,
the keys that are known and those that are missing, and which of some keys are yet to be asked
for. -/
structure Index (κ α : Type) where
  key : α → κ
  answer : κ → Option α
  known : κ → Prop
  missing : κ → Prop
  unseen : List κ → List κ

def nameIndex (m : Memo α) : Index String α where
  key := Named.name
  answer := m.getByName?
  known name := m.idByName.contains name
  missing name := name ∈ m.missingNames
  unseen := m.unseenNames

def idIndex (m : Memo α) : Index Uuid α where
  key := Named.id
  answer := m.get?
  known id := m.byId.contains id
  missing id := id ∈ m.missingIds
  unseen := m.unseenIds

/-- An index follows what it was told, by this key or by another one: it finds the entries told of,
and misses what was asked for in vain. -/
structure Index.Follows {κ : Type} [Ord κ] (x : Index κ α) (asked : List κ) (told : List α) :
    Prop where
  /-- An entry that was told of is found by its key, and no other one is found. -/
  learnt : ∀ k a, x.answer k = some a ↔ a ∈ told ∧ x.key a = k
  known : ∀ k, x.known k ↔ ∃ a ∈ told, x.key a = k
  missing : ∀ k, x.missing k ↔ k ∈ asked ∧ ∀ a ∈ told, x.key a ≠ k
  mem_unseen : ∀ ks k, k ∈ x.unseen ks ↔ k ∈ ks ∧ ¬x.known k ∧ ¬x.missing k
  ascending : ∀ ks, (x.unseen ks).Pairwise fun a b => compare a b = .lt

/-- An index is as good as the catalogue for the keys that were asked for. -/
structure Index.Transparent {κ : Type} [Ord κ] (x : Index κ α) (c : Catalogue α) (asked : List κ)
    (told : List α) : Prop extends x.Follows asked told where
  /-- A key that was asked for is answered as by the catalogue: with the entry that has it, or with
  none. -/
  answers : ∀ k ∈ asked, ∀ a, x.answer k = some a ↔ a ∈ c.values ∧ x.key a = k
  apart : ∀ k, ¬(x.known k ∧ x.missing k)
  nodup : ∀ ks, (x.unseen ks).Nodup
  /-- No key is asked for again. -/
  settled : ∀ k ∈ asked, ∀ ks, k ∉ x.unseen ks

/-- What has been learnt is as good as the catalogue, by name and by identifier. -/
structure Transparent (m : Memo α) (c : Catalogue α) (replies : List (Reply α)) : Prop where
  names : m.nameIndex.Transparent c (replies.flatMap Reply.names) (replies.flatMap Reply.found)
  ids : m.idIndex.Transparent c (replies.flatMap Reply.ids) (replies.flatMap Reply.found)

lemma Index.Follows.transparent {κ : Type} [Ord κ] [Std.LawfulEqOrd κ] {x : Index κ α}
    {asked : List κ} (h : x.Follows asked told) (htold : ∀ a ∈ told, a ∈ c.values)
    (hasked : ∀ a ∈ c.values, x.key a ∈ asked → a ∈ told) : x.Transparent c asked told where
  toFollows := h
  answers k hk a := by
    rw [h.learnt]
    exact ⟨fun ⟨ha, hkey⟩ => ⟨htold a ha, hkey⟩,
      fun ⟨ha, hkey⟩ => ⟨hasked a ha (hkey ▸ hk), hkey⟩⟩
  apart k := by
    rw [h.known, h.missing]
    rintro ⟨⟨a, ha, hkey⟩, -, hno⟩
    exact hno a ha hkey
  nodup ks := (h.ascending ks).imp fun hlt heq => by
    rw [heq, Std.LawfulEqOrd.compare_eq_iff_eq.mpr rfl] at hlt
    cases hlt
  settled k hk ks hmem := by
    obtain ⟨-, hknown, hmissing⟩ := (h.mem_unseen ks k).mp hmem
    rw [h.known] at hknown
    exact hmissing ((h.missing k).mpr ⟨hk, fun a ha hkey => hknown ⟨a, ha, hkey⟩⟩)

lemma Holds.nameIndex (h : m.Holds told names ids) (hu : Unambiguous told) :
    m.nameIndex.Follows names told where
  learnt name a := by
    change (m.idByName.get? name).bind m.byId.get? = some a ↔ _
    simp only [Option.bind_eq_some_iff, h.idByName, h.byId]
    constructor
    · rintro ⟨id, ⟨b, hb, hname, rfl⟩, ha, hid⟩
      obtain rfl : a = b := hu a ha b hb (.inr hid)
      exact ⟨ha, hname⟩
    · rintro ⟨ha, hname⟩
      exact ⟨_, ⟨a, ha, hname, rfl⟩, ha, rfl⟩
  known _ := h.isSome_idByName
  missing := h.missingNames
  mem_unseen names name := by
    change name ∈ m.unseenNames names ↔ _
    rw [mem_unseenNames, KnowsName, not_or]
    rfl
  ascending := m.ascending_unseenNames

lemma Holds.idIndex (h : m.Holds told names ids) : m.idIndex.Follows ids told where
  learnt := h.byId
  known _ := h.isSome_byId
  missing := h.missingIds
  mem_unseen ids id := by
    change id ∈ m.unseenIds ids ↔ _
    rw [mem_unseenIds, KnowsId, not_or]
    rfl
  ascending := m.ascending_unseenIds

/-! ### Answers of one catalogue -/

/-- What was told of in all are the entries of the catalogue with some key that was asked for. -/
lemma mem_found_iff (h : ∀ r ∈ replies, r.Answers c) :
    a ∈ replies.flatMap Reply.found ↔ a ∈ c.values ∧
      (Named.name a ∈ replies.flatMap Reply.names ∨ Named.id a ∈ replies.flatMap Reply.ids) := by
  simp only [List.mem_flatMap]
  constructor
  · rintro ⟨r, hr, ha⟩
    obtain ⟨hc, hkey⟩ := (h r hr a).mp ha
    exact ⟨hc, hkey.imp (fun hname => ⟨r, hr, hname⟩) fun hid => ⟨r, hr, hid⟩⟩
  · rintro ⟨hc, ⟨r, hr, hname⟩ | ⟨r, hr, hid⟩⟩
    · exact ⟨r, hr, (h r hr a).mpr ⟨hc, .inl hname⟩⟩
    · exact ⟨r, hr, (h r hr a).mpr ⟨hc, .inr hid⟩⟩

lemma unambiguous_found (hc : c.DistinctNames) (h : ∀ r ∈ replies, r.Answers c) :
    Unambiguous (replies.flatMap Reply.found) :=
  unambiguous_of_catalogue hc fun _ ha => ((mem_found_iff h).mp ha).1

lemma holds_learn (hc : c.DistinctNames) (h : ∀ r ∈ replies, r.Answers c) :
    ((∅ : Memo α).learn replies).Holds (replies.flatMap Reply.found)
      (replies.flatMap Reply.names) (replies.flatMap Reply.ids) :=
  holds_empty.learn (unambiguous_found hc h)

lemma transparent_of_answers (hc : c.DistinctNames) (h : ∀ r ∈ replies, r.Answers c) :
    ((∅ : Memo α).learn replies).Transparent c replies where
  names := ((holds_learn hc h).nameIndex (unambiguous_found hc h)).transparent
    (fun _ ha => ((mem_found_iff h).mp ha).1)
    fun _ ha hname => (mem_found_iff h).mpr ⟨ha, .inl hname⟩
  ids := (holds_learn hc h).idIndex.transparent (fun _ ha => ((mem_found_iff h).mp ha).1)
    fun _ ha hid => (mem_found_iff h).mpr ⟨ha, .inr hid⟩

/-- The same keys were asked for, in one order or another. -/
structure SameKeys (replies replies' : List (Reply α)) : Prop where
  names : ∀ name, name ∈ replies.flatMap Reply.names ↔ name ∈ replies'.flatMap Reply.names
  ids : ∀ id, id ∈ replies.flatMap Reply.ids ↔ id ∈ replies'.flatMap Reply.ids

lemma SameKeys.learn_eq (hkeys : SameKeys replies replies') (hc : c.DistinctNames)
    (h : ∀ r ∈ replies, r.Answers c) (h' : ∀ r ∈ replies', r.Answers c) :
    (∅ : Memo α).learn replies = (∅ : Memo α).learn replies' :=
  (holds_learn hc h).eq (holds_learn hc h')
    (fun a => by rw [mem_found_iff h, mem_found_iff h', hkeys.names, hkeys.ids])
    hkeys.names hkeys.ids

end Memo

namespace Lookups

/-- An answer about roles or about accounts. -/
inductive Reply where
  | roles (reply : Memo.Reply Role)
  | accounts (reply : Memo.Reply Account)

namespace Reply

def role? : Reply → Option (Memo.Reply Role)
  | roles reply => some reply
  | accounts _ => none

def account? : Reply → Option (Memo.Reply Account)
  | roles _ => none
  | accounts reply => some reply

/-- The answer is what the catalogue of its sort says. -/
def Answers (roles : Catalogue Role) (accounts : Catalogue Account) : Reply → Prop
  | .roles reply => reply.Answers roles
  | .accounts reply => reply.Answers accounts

end Reply

def record (l : Lookups) : Reply → Lookups
  | .roles reply => { l with roles := l.roles.record reply }
  | .accounts reply => { l with accounts := l.accounts.record reply }

/-- Remembers answers one after the other. -/
def learn (l : Lookups) (replies : List Reply) : Lookups := replies.foldl record l

variable {l : Lookups} {roles : Catalogue Role} {accounts : Catalogue Account}
  {replies : List Reply}

/-- What is known of roles comes from the answers about roles alone. -/
lemma roles_learn : (l.learn replies).roles = l.roles.learn (replies.filterMap Reply.role?) := by
  unfold learn
  induction replies generalizing l with
  | nil => rfl
  | cons r rest ih => cases r <;> exact ih

lemma accounts_learn :
    (l.learn replies).accounts = l.accounts.learn (replies.filterMap Reply.account?) := by
  unfold learn
  induction replies generalizing l with
  | nil => rfl
  | cons r rest ih => cases r <;> exact ih

lemma answers_role? (h : ∀ r ∈ replies, r.Answers roles accounts) :
    ∀ r ∈ replies.filterMap Reply.role?, r.Answers roles := by
  intro r hr
  obtain ⟨r', hr', hrole⟩ := List.mem_filterMap.mp hr
  cases r' <;> cases hrole
  exact h _ hr'

lemma answers_account? (h : ∀ r ∈ replies, r.Answers roles accounts) :
    ∀ r ∈ replies.filterMap Reply.account?, r.Answers accounts := by
  intro r hr
  obtain ⟨r', hr', haccount⟩ := List.mem_filterMap.mp hr
  cases r' <;> cases haccount
  exact h _ hr'

/-- What has been learnt is as good as the catalogues, and the order in which the entries of an
answer are listed has no part in it. -/
structure Transparent (roles : Catalogue Role) (accounts : Catalogue Account)
    (replies : List Reply) : Prop where
  ofRoles : ((∅ : Lookups).learn replies).roles.Transparent roles
    (replies.filterMap Reply.role?)
  ofAccounts : ((∅ : Lookups).learn replies).accounts.Transparent accounts
    (replies.filterMap Reply.account?)
  /-- Other answers about the same keys leave the same behind, so nothing that is looked up later
  can tell them apart. -/
  unordered : ∀ others : List Reply, (∀ r ∈ others, r.Answers roles accounts) →
    Memo.SameKeys (replies.filterMap Reply.role?) (others.filterMap Reply.role?) →
    Memo.SameKeys (replies.filterMap Reply.account?) (others.filterMap Reply.account?) →
    (∅ : Lookups).learn replies = (∅ : Lookups).learn others

/-- **What is looked up** after any run of answers is what the catalogues say of every key that was
asked for, and of every entry that was told of; no key is known and missing, or asked for again. -/
theorem transparent_learn (hroles : roles.DistinctNames) (haccounts : accounts.DistinctNames)
    (h : ∀ r ∈ replies, r.Answers roles accounts) : Transparent roles accounts replies where
  ofRoles := by
    rw [roles_learn]
    exact Memo.transparent_of_answers hroles (answers_role? h)
  ofAccounts := by
    rw [accounts_learn]
    exact Memo.transparent_of_answers haccounts (answers_account? h)
  unordered others hothers hroleKeys haccountKeys := by
    have hr : ((∅ : Lookups).learn replies).roles = ((∅ : Lookups).learn others).roles := by
      rw [roles_learn, roles_learn]
      exact hroleKeys.learn_eq hroles (answers_role? h) (answers_role? hothers)
    have ha : ((∅ : Lookups).learn replies).accounts = ((∅ : Lookups).learn others).accounts := by
      rw [accounts_learn, accounts_learn]
      exact haccountKeys.learn_eq haccounts (answers_account? h) (answers_account? hothers)
    exact congrArg₂ Lookups.mk hr ha

/-- Answers for the example, where both roles are found by their identifiers. -/
def sampleReplies (both : List Role) : List Reply :=
  [.roles (.byName ["nobody", "writer"] [⟨3, "writer", .ofList ["read", "write"]⟩]),
    .accounts (.byId [7, 1] [⟨1, "main"⟩]), .roles (.byId [2, 8, 3] both)]

/-- A reader is known by name, though it was asked for by identifier only, and in whichever order
the roles were listed. -/
theorem transparent_learn_sample :
    let t := Directory.sample.tenant "acme"
    let reader : Role := ⟨2, "reader", .ofList ["read"]⟩
    let writer : Role := ⟨3, "writer", .ofList ["read", "write"]⟩
    let l := (∅ : Lookups).learn (sampleReplies [writer, reader])
    t.roles.DistinctNames ∧ t.accounts.DistinctNames ∧
      (∀ r ∈ sampleReplies [writer, reader], r.Answers t.roles t.accounts) ∧
      Transparent t.roles t.accounts (sampleReplies [writer, reader]) ∧
      l = (∅ : Lookups).learn (sampleReplies [reader, writer]) ∧
      l.roles.getByName? "reader" = some reader ∧ l.accounts.getByName? "main" = some ⟨1, "main"⟩ ∧
      l.roles.getByName? "nobody" = none ∧
      l.roles.unseenNames ["writer", "visitor", "reader", "nobody", "guest", "visitor"] =
        ["guest", "visitor"] := by
  intro t reader writer l
  have hroles : t.roles.DistinctNames := by decide +kernel
  have haccounts : t.accounts.DistinctNames := by decide +kernel
  have hreplies : ∀ both, both.Perm (t.roles.withIds [2, 8, 3]) →
      ∀ r ∈ sampleReplies both, r.Answers t.roles t.accounts := by
    intro both hboth
    unfold sampleReplies
    simp only [List.forall_mem_cons]
    exact ⟨Memo.Reply.answers_byName (by decide +kernel), Memo.Reply.answers_byId
      (by decide +kernel), Memo.Reply.answers_byId hboth, by simp⟩
  have hdown := hreplies [writer, reader] (by decide +kernel)
  have hup := hreplies [reader, writer] (by decide +kernel)
  have htransparent := transparent_learn hroles haccounts hdown
  exact ⟨hroles, haccounts, hdown, htransparent,
    htransparent.unordered _ hup ⟨fun _ => Iff.rfl, fun _ => Iff.rfl⟩
      ⟨fun _ => Iff.rfl, fun _ => Iff.rfl⟩,
    by decide +kernel, by decide +kernel, by decide +kernel, by decide +kernel⟩

end Lookups

end Provisioning
