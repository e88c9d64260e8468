import Mathlib.Data.List.Pairwise
import Provisioning.Proofs.Questions
import Provisioning.Grant.Reconcile
import Provisioning.Proofs.Resolving

/-!
Few questions, and none about a key of another one.

Questions are frugal (`Frugal`) if they come in a given order, all keys of one sort in one question,
and no key is looked up twice in the same way. So are the questions about what a batch names
(`asks_resolveReferences`), and all of it is known afterwards (`told_resolveReferences`).
-/

namespace Provisioning

/-! ### Questions that are in order -/

/-- Keys as they are looked up: there are some, and they ascend, so none comes twice. -/
structure KeyList {κ : Type} [Ord κ] (keys : List κ) : Prop where
  ne_nil : keys ≠ []
  ascending : keys.Pairwise fun a b => compare a b = .lt
  nodup : keys.Nodup

/-- Questions that look up accounts or roles. -/
def Call.isLookup : Call → Bool
  | rolesByName | rolesById | accountsByName | accountsById => true
  | definitions | taken | grants => false

namespace Query

/-- Keys are looked up as they should be. -/
def Tidy : Query → Prop
  | rolesByName names => KeyList names
  | rolesById ids => KeyList ids
  | accountsByName names => KeyList names
  | accountsById ids => KeyList ids
  | _ => True

/-- No key is looked up by both questions in the same way. -/
def Apart : Query → Query → Prop
  | rolesByName names, rolesByName names' => names.Disjoint names'
  | rolesById ids, rolesById ids' => ids.Disjoint ids'
  | accountsByName names, accountsByName names' => names.Disjoint names'
  | accountsById ids, accountsById ids' => ids.Disjoint ids'
  | _, _ => True

variable {q q' : Query}

lemma tidy_of_not_isLookup (h : q.call.isLookup = false) : q.Tidy := by
  cases q <;> trivial

lemma apart_of_not_isLookup (h : q.call.isLookup = false) : q.Apart q' := by
  cases q <;> cases q' <;> trivial

lemma apart_of_call_ne (h : q.call ≠ q'.call) : q.Apart q' := by
  cases q <;> cases q' <;> trivial

end Query

/-- Questions that come in the given order, each about keys in order, and none about a key of
another one. -/
structure Frugal (order : List Call) (qs : List Query) : Prop where
  order : (qs.map Query.call).Sublist order
  tidy : ∀ q ∈ qs, q.Tidy
  apart : qs.Pairwise Query.Apart

section Frugal

variable {order order' : List Call} {qs qs' : List Query}

lemma frugal_nil (order : List Call) : Frugal order [] := ⟨List.nil_sublist _, by simp, .nil⟩

lemma Frugal.call_mem (h : Frugal order qs) {q : Query} (hq : q ∈ qs) : q.call ∈ order :=
  h.order.subset (List.mem_map_of_mem hq)

lemma Frugal.sublist (h : Frugal order qs) (hs : qs'.Sublist qs) : Frugal order qs' :=
  ⟨(hs.map _).trans h.order, fun q hq => h.tidy q (hs.subset hq), h.apart.sublist hs⟩

lemma Frugal.append (h : Frugal order qs) (h' : Frugal order' qs')
    (hapart : ∀ q ∈ qs, ∀ q' ∈ qs', q.Apart q') : Frugal (order ++ order') (qs ++ qs') where
  order := by
    rw [List.map_append]
    exact h.order.append h'.order
  tidy := List.forall_mem_append.mpr ⟨h.tidy, h'.tidy⟩
  apart := List.pairwise_append.mpr ⟨h.apart, h'.apart, hapart⟩

/-- Questions can follow that look up something else. -/
lemma Frugal.append_of_calls (h : Frugal order qs) (h' : Frugal order' qs')
    (hcalls : ∀ c ∈ order, c ∈ order' → c.isLookup = false) :
    Frugal (order ++ order') (qs ++ qs') := by
  refine h.append h' fun q hq q' hq' => ?_
  by_cases hcall : q.call = q'.call
  · exact Query.apart_of_not_isLookup (hcalls _ (h.call_mem hq) (hcall ▸ h'.call_mem hq'))
  · exact Query.apart_of_call_ne hcall

lemma frugal_singleton {q : Query} (h : q.Tidy) : Frugal [q.call] [q] :=
  ⟨List.Sublist.refl _, by simpa using h, List.pairwise_singleton _ _⟩

/-- Where neither accounts nor roles are looked up, the order is all there is. -/
lemma frugal_of_orderly {α : Type} {s : Session α} (h : s.Orderly order)
    (hcalls : ∀ c ∈ order, c.isLookup = false) (t : Tenant) : Frugal order (s.questions t) := by
  have horder := h.sublist t
  have hlookup : ∀ q ∈ s.questions t, q.call.isLookup = false := fun q hq =>
    hcalls _ (horder.subset (List.mem_map_of_mem hq))
  refine ⟨horder, fun q hq => Query.tidy_of_not_isLookup (hlookup q hq), ?_⟩
  exact List.pairwise_of_forall_mem_list fun q hq q' _ =>
    Query.apart_of_not_isLookup (hlookup q hq)

/-- The question that looks up keys, if there are any. -/
def lookUp {κ : Type} (ask : List κ → Query) (keys : List κ) : List Query :=
  if keys.isEmpty then [] else [ask keys]

lemma frugal_lookUp {κ : Type} [Ord κ] [Std.ReflOrd κ] (ask : List κ → Query) {c : Call}
    (hcall : ∀ keys, (ask keys).call = c) (htidy : ∀ keys, KeyList keys → (ask keys).Tidy)
    {keys : List κ} (hkeys : keys.Pairwise fun a b => compare a b = .lt) :
    Frugal [c] (lookUp ask keys) := by
  unfold lookUp
  split
  · exact frugal_nil _
  next hne =>
    have hnodup : keys.Nodup := hkeys.imp fun h heq => by
      rw [heq, Std.ReflOrd.compare_self] at h
      cases h
    rw [← hcall keys]
    exact frugal_singleton (htidy keys ⟨by simpa using hne, hkeys, hnodup⟩)

lemma questions_lookUp {κ : Type} (ask : List κ → Query) (keys : List κ)
    (a : (ask keys).Answer) (t : Tenant) :
    (if keys.isEmpty then pure a else Session.query (ask keys)).questions t = lookUp ask keys := by
  unfold lookUp
  split <;> rfl

end Frugal

/-! ### Work that looks things up -/

namespace Resolving

variable {α β : Type} {t : Tenant} {l l' : Lookups}

/-- The questions that the work asks when every question is answered. -/
def asks (t : Tenant) (x : Resolving α) (l : Lookups) : List Query := (x.run l).questions t

@[simp] lemma asks_set (l' : Lookups) : asks t (set l' : Resolving PUnit) l = [] := rfl

lemma asks_bind_of_ok {x : Resolving α} {a : α} (h : on t x l = .ok (a, l'))
    (f : α → Resolving β) : asks t (x >>= f) l = asks t x l ++ asks t (f a) l' := by
  unfold on at h
  unfold asks
  rw [StateT.run_bind, Session.questions_bind, h]

lemma asks_bind_of_error {x : Resolving α} {e : Failure} (h : on t x l = .error e)
    (f : α → Resolving β) : asks t (x >>= f) l = asks t x l := by
  unfold on at h
  unfold asks
  rw [StateT.run_bind, Session.questions_bind, h]
  exact List.append_nil _

lemma asks_finish (x : Resolving α) {f : α → Resolving β} (hf : ∀ a l, asks t (f a) l = []) :
    asks t (x >>= f) l = asks t x l := by
  unfold asks
  rw [StateT.run_bind]
  exact Session.questions_finish t _ fun p => hf p.1 p.2

lemma asks_ite (p : Prop) [Decidable p] (x y : Resolving α) :
    asks t (if p then x else y) l = if p then asks t x l else asks t y l := by
  split <;> rfl

lemma asks_get_bind (f : Lookups → Resolving β) : asks t (get >>= f) l = asks t (f l) l :=
  asks_bind_of_ok on_get f

lemma asks_lift (s : Session α) : asks t (liftM s : Resolving α) l = s.questions t :=
  Session.questions_finish t s fun _ => rfl

lemma questions_run' (x : Resolving α) : (x.run' l).questions t = asks t x l :=
  Session.questions_finish t (x.run l) fun _ => rfl

/-! ### Looking up the references of a batch -/

@[simp] lemma questions_fetchAccountsById (ids : List Uuid) :
    (fetchAccountsById ids).questions t = lookUp .accountsById ids :=
  questions_lookUp .accountsById ids [] t

@[simp] lemma questions_fetchAccountsByName (names : List String) :
    (fetchAccountsByName names).questions t = lookUp .accountsByName names :=
  questions_lookUp .accountsByName names [] t

@[simp] lemma questions_fetchRolesByName (names : List String) :
    (fetchRolesByName names).questions t = lookUp .rolesByName names :=
  questions_lookUp .rolesByName names [] t

@[simp] lemma questions_fetchRolesById (ids : List Uuid) :
    (fetchRolesById ids).questions t = lookUp .rolesById ids :=
  questions_lookUp .rolesById ids [] t

/-- What is looked up for a batch: its accounts and roles, each sort at once, and the roles held. -/
lemma asks_resolveReferences (changes : List Change) (ids : List Uuid) :
    ∃ qs, Frugal [.accountsById, .accountsByName, .rolesByName] qs ∧
      asks t (resolveReferences changes ids) ∅ =
        qs ++ lookUp .rolesById ((∅ : Memo Role).unseenIds ids) := by
  refine ⟨lookUp .accountsById ((∅ : Memo Account).unseenIds
        ((changes.map fun c => AccountRef.ofText c.account).filterMap AccountRef.id?)) ++
      lookUp .accountsByName ((∅ : Memo Account).unseenNames
        ((changes.map fun c => AccountRef.ofText c.account).filterMap AccountRef.name?)) ++
      lookUp .rolesByName ((∅ : Memo Role).unseenNames
        (changes.filterMap fun c => c.target.roleName)), ?_, ?_⟩
  · have hids := frugal_lookUp .accountsById (fun _ => rfl) (fun _ => id)
      ((∅ : Memo Account).ascending_unseenIds
        ((changes.map fun c => AccountRef.ofText c.account).filterMap AccountRef.id?))
    have hnames := frugal_lookUp .accountsByName (fun _ => rfl) (fun _ => id)
      ((∅ : Memo Account).ascending_unseenNames
        ((changes.map fun c => AccountRef.ofText c.account).filterMap AccountRef.name?))
    have hroles := frugal_lookUp .rolesByName (fun _ => rfl) (fun _ => id)
      ((∅ : Memo Role).ascending_unseenNames (changes.filterMap fun c => c.target.roleName))
    exact (hids.append_of_calls hnames (by decide)).append_of_calls hroles (by decide)
  · unfold resolveReferences
    rw [asks_get_bind]
    dsimp only
    rw [asks_bind_of_ok (on_lift (on_fetchAccountsById _)),
      asks_bind_of_ok (on_lift (on_fetchAccountsByName _)),
      asks_bind_of_ok (on_lift (on_fetchRolesByName _)),
      asks_bind_of_ok (on_lift (on_fetchRolesById _))]
    simp only [asks_lift, questions_fetchAccountsById, questions_fetchAccountsByName,
      questions_fetchRolesByName, questions_fetchRolesById, asks_set, List.append_nil,
      List.append_assoc]
    rfl

/-- After that everything known of roles is what the catalogue says, and every role held is known. -/
lemma told_resolveReferences (changes : List Change) (ids : List Uuid) :
    ∃ l, on t (resolveReferences changes ids) ∅ = .ok ((), l) ∧ l.roles.Told t.roles ∧
      ∀ id ∈ ids, l.roles.KnowsId id := by
  unfold resolveReferences
  rw [on_get_bind]
  dsimp only
  rw [on_bind_of_ok (on_lift (on_fetchAccountsById _)),
    on_bind_of_ok (on_lift (on_fetchAccountsByName _)),
    on_bind_of_ok (on_lift (on_fetchRolesByName _)), on_bind_of_ok (on_lift (on_fetchRolesById _)),
    on_set]
  refine ⟨_, rfl, ?_, fun id hid => ?_⟩
  · exact (Memo.Told.empty.byName _ fun _ => Catalogue.mem_withNames).byId _
      fun _ => Catalogue.mem_withIds
  · refine Memo.knowsId_recordById (Or.inl ?_)
    exact Memo.mem_unseenIds.mpr ⟨hid, Memo.not_knowsId_empty id⟩

end Resolving

end Provisioning
