import Provisioning.Grant.Reconcile
import Provisioning.Proofs.Resolving

/-!
The references of a batch.

What an account text and a role name stand for is said by the catalogues alone (`Tenant.account?`,
`Tenant.resolve?`). The work that looks up a batch, begun with nothing learnt, ends with a memo that
agrees with them on everything the batch names (`Lookups.Serves`), so resolving a batch with what
was learnt is resolving it in the catalogues, and what does not exist there is what is reported
(`Lookups.Serves.referenceErrors_eq`).
-/

namespace Provisioning

namespace Tenant

variable (t : Tenant)

/-- The account that a text stands for. -/
def account? (text : String) : Option Uuid :=
  match AccountRef.ofText text with
  | .byId id => (t.accounts.get? id).map (·.id)
  | .byName name => (t.accounts.named? name).map (·.id)

/-- The role that a change names, if it exists; `none` if the change names no role. -/
def target? : ChangeTarget → Option (Option (Uuid × String))
  | .role name => (t.roles.named? name).map fun r => some (r.id, r.name)
  | .allRoles => some none

/-- A change with its references looked up, if they exist. -/
def resolve? (c : Change) : Option ResolvedChange :=
  match t.account? c.account, t.target? c.target with
  | some account, some role => some ⟨c, account, role⟩
  | _, _ => none

/-- The account or the role that a change names does not exist. -/
def Unknown (c : Change) : Prop :=
  t.account? c.account = none ∨ ∃ name, c.target = .role name ∧ t.roles.named? name = none

/-- What is wrong with the references of a change: the account first, and then the role. -/
def missingReferences (c : Change) : List ChangeError :=
  (if t.account? c.account = none then [c.refuse .unknownAccount] else []) ++
    if t.target? c.target = none then [c.refuse .unknownRole] else []

/-- What is wrong with the references of a batch, in the order of its changes. -/
def missingReferencesOf (changes : List Change) : List ChangeError :=
  changes.flatMap t.missingReferences

/-- The changes of a batch with their references looked up. -/
def resolveAll (changes : List Change) : List ResolvedChange := changes.filterMap t.resolve?

variable {t} {c : Change} {r : ResolvedChange} {changes : List Change}

lemma target?_eq_none {target : ChangeTarget} :
    t.target? target = none ↔ ∃ name, target = .role name ∧ t.roles.named? name = none := by
  cases target <;> simp [target?]

lemma resolve?_eq_none : t.resolve? c = none ↔ t.Unknown c := by
  unfold resolve? Unknown
  rw [← target?_eq_none]
  rcases t.account? c.account with _ | account <;> rcases t.target? c.target with _ | role <;> simp

instance : Decidable (t.Unknown c) := decidable_of_iff _ resolve?_eq_none

lemma missingReferencesOf_eq_nil :
    t.missingReferencesOf changes = [] ↔ ∀ c ∈ changes, ¬t.Unknown c := by
  unfold missingReferencesOf
  rw [List.flatMap_eq_nil_iff]
  refine forall₂_congr fun c _ => ?_
  unfold missingReferences Unknown
  rw [← target?_eq_none, List.append_eq_nil_iff]
  by_cases haccount : t.account? c.account = none <;> by_cases htarget : t.target? c.target = none <;>
    simp [haccount, htarget]

lemma resolve?_eq_some : t.resolve? c = some r ↔
    r.change = c ∧ t.account? c.account = some r.account ∧ t.target? c.target = some r.role := by
  obtain ⟨c', account', role'⟩ := r
  unfold resolve?
  rcases t.account? c.account with _ | account <;> rcases t.target? c.target with _ | role <;>
    simp [eq_comm]

lemma mem_resolveAll :
    r ∈ t.resolveAll changes ↔ r.change ∈ changes ∧ t.resolve? r.change = some r := by
  unfold resolveAll
  rw [List.mem_filterMap]
  constructor
  · rintro ⟨c, hc, hr⟩
    obtain rfl := (resolve?_eq_some.mp hr).1
    exact ⟨hc, hr⟩
  · exact fun ⟨hc, hr⟩ => ⟨r.change, hc, hr⟩

/-- If everything exists, looking up the references keeps every change in its place. -/
lemma map_change_resolveAll (h : ∀ c ∈ changes, ¬t.Unknown c) :
    (t.resolveAll changes).map (·.change) = changes := by
  unfold resolveAll
  induction changes with
  | nil => rfl
  | cons c rest ih =>
    rcases hr : t.resolve? c with _ | r
    · exact absurd (resolve?_eq_none.mp hr) (h c List.mem_cons_self)
    · rw [List.filterMap_cons_some hr, List.map_cons, (resolve?_eq_some.mp hr).1,
        ih fun d hd => h d (List.mem_cons_of_mem c hd)]

lemma resolveAll_ne_nil (h : ∀ c ∈ changes, ¬t.Unknown c) (hne : changes ≠ []) :
    t.resolveAll changes ≠ [] := by
  rw [← map_change_resolveAll h] at hne
  exact mt (congrArg (List.map (·.change))) hne

/-- The role of a change that was looked up exists, under the name that goes with it. -/
lemma role_of_mem_resolveAll (h : r ∈ t.resolveAll changes) {id : Uuid} {name : String}
    (hr : r.role = some (id, name)) : ∃ role, t.roles.get? id = some role ∧ role.name = name := by
  have htarget := (resolve?_eq_some.mp (mem_resolveAll.mp h).2).2.2
  rw [hr] at htarget
  rcases hc : r.change.target with n | _
  · rw [hc] at htarget
    obtain ⟨role, hrole, heq⟩ := Option.map_eq_some_iff.mp htarget
    obtain ⟨rfl, rfl⟩ := Prod.mk.inj (Option.some.inj heq)
    exact ⟨role, Catalogue.mem_values.mp (Catalogue.named?_spec hrole).1, rfl⟩
  · rw [hc] at htarget
    cases Option.some.inj htarget

end Tenant

/-- What was learnt agrees with the catalogues on all that a batch names and on given roles. -/
structure Lookups.Serves (l : Lookups) (t : Tenant) (changes : List Change) (ids : List Uuid) :
    Prop where
  roles : l.roles.Reflects t.roles
  account : ∀ c ∈ changes, (AccountRef.ofText c.account).resolve l = t.account? c.account
  target : ∀ c ∈ changes, resolveTarget l c.target = t.target? c.target
  held : ∀ id ∈ ids, l.roles.get? id = t.roles.get? id

open Resolving

variable {t : Tenant} {l : Lookups} {changes : List Change} {ids : List Uuid}

/-- Looking up a batch with nothing learnt before. -/
lemma on_resolveReferences (hd : t.roles.DistinctNames) (changes : List Change)
    (ids : List Uuid) :
    ∃ l, on t (resolveReferences changes ids) ∅ = .ok ((), l) ∧ l.Serves t changes ids := by
  unfold resolveReferences
  rw [on_get_bind]
  dsimp only
  rw [on_bind_of_ok (on_lift (on_fetchAccountsById _)),
    on_bind_of_ok (on_lift (on_fetchAccountsByName _)),
    on_bind_of_ok (on_lift (on_fetchRolesByName _)), on_bind_of_ok (on_lift (on_fetchRolesById _)),
    on_set]
  -- nothing was known before, so everything that is named was asked for
  have hnames : ∀ {α : Type} {names : List String} {name : String}, name ∈ names →
      name ∈ (∅ : Memo α).unseenNames names := fun hn =>
    Memo.mem_unseenNames.mpr ⟨hn, Memo.not_knowsName_empty _⟩
  have hids : ∀ {α : Type} {ids : List Uuid} {id : Uuid}, id ∈ ids →
      id ∈ (∅ : Memo α).unseenIds ids := fun hi =>
    Memo.mem_unseenIds.mpr ⟨hi, Memo.not_knowsId_empty _⟩
  have hroles := (Memo.reflects_empty (c := t.roles)).recordByName
    ((∅ : Memo Role).unseenNames (changes.filterMap fun c => c.target.roleName))
    fun _ => Catalogue.mem_withNames
  have haccounts := (Memo.reflects_empty (c := t.accounts)).recordById
    ((∅ : Memo Account).unseenIds
      ((changes.map fun c => AccountRef.ofText c.account).filterMap AccountRef.id?))
    fun _ => Catalogue.mem_withIds
  refine ⟨_, rfl, hroles.recordById _ fun _ => Catalogue.mem_withIds, fun c hc => ?_,
    fun c hc => ?_, fun id hi => ?_⟩
  · unfold Tenant.account?
    rcases href : AccountRef.ofText c.account with id | name
    · have hid : id ∈ (changes.map fun c => AccountRef.ofText c.account).filterMap
          AccountRef.id? := by
        exact List.mem_filterMap.mpr ⟨_, List.mem_map.mpr ⟨c, hc, href⟩, rfl⟩
      exact congrArg (Option.map fun a : Account => a.id)
        ((haccounts.recordByName _ fun _ => Catalogue.mem_withNames).get?_eq
          (Memo.KnowsId.recordByName (Memo.knowsId_recordById (Or.inl (hids hid))) _ _))
    · have hname : name ∈ (changes.map fun c => AccountRef.ofText c.account).filterMap
          AccountRef.name? := by
        exact List.mem_filterMap.mpr ⟨_, List.mem_map.mpr ⟨c, hc, href⟩, rfl⟩
      exact congrArg (Option.map fun a : Account => a.id)
        (Memo.getByName?_recordByName haccounts (hnames hname))
  · rcases htarget : c.target with name | _
    · have hname : name ∈ changes.filterMap fun c => c.target.roleName := by
        exact List.mem_filterMap.mpr ⟨c, hc, by rw [htarget]; rfl⟩
      exact congrArg (Option.map fun r : Role => some (r.id, r.name))
        ((hroles.recordById _ fun _ => Catalogue.mem_withIds).getByName?_eq hd
          (Memo.KnowsName.recordById (Memo.knowsName_recordByName (Or.inl (hnames hname))) _ _))
    · rfl
  · exact (hroles.recordById _ fun _ => Catalogue.mem_withIds).get?_eq
      (Memo.knowsId_recordById (Or.inl (hids hi)))

/-! ### Resolving with what was learnt -/

lemma Lookups.Serves.resolveChange_eq (h : l.Serves t changes ids) {c : Change} (hc : c ∈ changes) :
    (resolveChange l c).toOption = t.resolve? c := by
  unfold resolveChange Tenant.resolve?
  rw [h.account c hc, h.target c hc]
  rcases t.account? c.account with _ | account <;> rcases t.target? c.target with _ | role <;> rfl

lemma Lookups.Serves.resolvedChanges_eq (h : l.Serves t changes ids) :
    resolvedChanges l changes = t.resolveAll changes :=
  List.filterMap_congr fun _ hc => h.resolveChange_eq hc

lemma Lookups.Serves.referenceErrors_eq (h : l.Serves t changes ids) :
    referenceErrors l changes = t.missingReferencesOf changes := by
  refine List.flatMap_congr fun c hc => ?_
  unfold resolveChange Tenant.missingReferences
  rw [h.account c hc, h.target c hc]
  rcases t.account? c.account with _ | account <;> rcases t.target? c.target with _ | role <;> rfl

lemma Lookups.Serves.referenceErrors_eq_nil (h : l.Serves t changes ids) :
    referenceErrors l changes = [] ↔ ∀ c ∈ changes, ¬t.Unknown c := by
  rw [h.referenceErrors_eq, Tenant.missingReferencesOf_eq_nil]

end Provisioning
