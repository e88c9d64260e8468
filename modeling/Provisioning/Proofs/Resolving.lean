import Provisioning.Proofs.Memo

/-!
Work that looks things up, where every question is answered.

`Resolving.on` gives the result of such work and what has been learnt then. The lemmas follow the
work step by step; those on loading say that what is learnt is what the catalogues say.
-/

namespace Provisioning.Resolving

variable {α β : Type} {t : Tenant} {l l' : Lookups}

/-- The result for a tenant when every question is answered, and what has been learnt then. -/
def on (t : Tenant) (x : Resolving α) (l : Lookups) : Except Failure (α × Lookups) :=
  (x.run l).on t

@[simp] lemma on_pure (a : α) : on t (pure a) l = .ok (a, l) := rfl

@[simp] lemma on_get : on t (get : Resolving Lookups) l = .ok (l, l) := rfl

@[simp] lemma on_set : on t (set l' : Resolving PUnit) l = .ok ((), l') := rfl

@[simp] lemma on_modify (f : Lookups → Lookups) :
    on t (modify f : Resolving PUnit) l = .ok ((), f l) := rfl

@[simp] lemma on_fail (e : Failure) : on t (fail e : Resolving α) l = .error e := rfl

lemma on_bind (x : Resolving α) (f : α → Resolving β) :
    on t (x >>= f) l = on t x l >>= fun p => on t (f p.1) p.2 := by
  simp [on]

lemma on_bind_of_ok {x : Resolving α} {a : α} (h : on t x l = .ok (a, l'))
    (f : α → Resolving β) : on t (x >>= f) l = on t (f a) l' := by
  rw [on_bind, h]; rfl

lemma on_bind_of_error {x : Resolving α} {e : Failure} (h : on t x l = .error e)
    (f : α → Resolving β) : on t (x >>= f) l = .error e := by
  rw [on_bind, h]; rfl

lemma on_bind_eq_ok {x : Resolving α} {f : α → Resolving β} {p : β × Lookups} :
    on t (x >>= f) l = .ok p ↔ ∃ a l₁, on t x l = .ok (a, l₁) ∧ on t (f a) l₁ = .ok p := by
  rw [on_bind, bind_eq_ok, Prod.exists]

lemma on_ite (p : Prop) [Decidable p] (x y : Resolving α) :
    on t (if p then x else y) l = if p then on t x l else on t y l := by
  split <;> rfl

/-- Reads off what was learnt and goes on. -/
lemma on_get_bind (f : Lookups → Resolving β) : on t (get >>= f) l = on t (f l) l :=
  on_bind_of_ok on_get f

lemma on_lift {s : Session α} {a : α} (h : s.on t = .ok a) :
    on t (liftM s : Resolving α) l = .ok (a, l) := by
  change (s >>= fun a => pure (a, l)).on t = _
  rw [Session.on_bind, h]; rfl

/-- What becomes of the work when nothing has been learnt before. -/
lemma on_run' (x : Resolving α) : (x.run' l).on t = (on t x l).map Prod.fst := by
  change (Prod.fst <$> x.run l).on t = _
  rw [Session.on_map]
  rfl

lemma on_run'_eq_ok {x : Resolving α} {a : α} :
    (x.run' l).on t = .ok a ↔ ∃ l', on t x l = .ok (a, l') := by
  rw [on_run', map_eq_ok]
  constructor
  · rintro ⟨⟨b, l'⟩, h, rfl⟩
    exact ⟨l', h⟩
  · exact fun ⟨l', h⟩ => ⟨(a, l'), h, rfl⟩

lemma on_run'_eq_error {x : Resolving α} {e : Failure} :
    (x.run' l).on t = .error e ↔ on t x l = .error e := by
  rw [on_run']
  rcases on t x l with e' | p
  · refine ⟨fun h => ?_, fun h => ?_⟩ <;> rw [Except.error.inj h]
    rfl
  · exact iff_of_false (fun h => by cases h) fun h => by cases h

/-! ### Fetching and loading -/

@[simp] lemma on_fetchRolesByName (names : List String) :
    (fetchRolesByName names).on t = .ok (t.roles.withNames names) := by
  unfold fetchRolesByName
  split
  next h => simp [List.isEmpty_iff.mp h, Catalogue.withNames]
  next => rfl

@[simp] lemma on_fetchRolesById (ids : List Uuid) :
    (fetchRolesById ids).on t = .ok (t.roles.withIds ids) := by
  unfold fetchRolesById
  split
  next h => simp [List.isEmpty_iff.mp h, Catalogue.withIds]
  next => rfl

@[simp] lemma on_fetchAccountsByName (names : List String) :
    (fetchAccountsByName names).on t = .ok (t.accounts.withNames names) := by
  unfold fetchAccountsByName
  split
  next h => simp [List.isEmpty_iff.mp h, Catalogue.withNames]
  next => rfl

@[simp] lemma on_fetchAccountsById (ids : List Uuid) :
    (fetchAccountsById ids).on t = .ok (t.accounts.withIds ids) := by
  unfold fetchAccountsById
  split
  next h => simp [List.isEmpty_iff.mp h, Catalogue.withIds]
  next => rfl

/-- After roles were loaded by name, something is known of every name asked for. -/
lemma on_loadRolesByName (h : l.roles.Reflects t.roles) (names : List String) :
    ∃ l', on t (loadRolesByName names) l = .ok ((), l') ∧ l'.roles.Reflects t.roles ∧
      ∀ name ∈ names, l'.roles.KnowsName name := by
  unfold loadRolesByName
  rw [on_get_bind, on_bind_of_ok (on_lift (on_fetchRolesByName _)), on_modify]
  refine ⟨_, rfl, h.recordByName _ fun _ => Catalogue.mem_withNames, fun name hn => ?_⟩
  refine Memo.knowsName_recordByName ?_
  rw [Memo.mem_unseenNames]
  by_cases hk : l.roles.KnowsName name
  · exact Or.inr hk
  · exact Or.inl ⟨hn, hk⟩

/-- After roles were loaded by identifier, something is known of every identifier asked for. -/
lemma on_loadRolesById (h : l.roles.Reflects t.roles) (ids : List Uuid) :
    ∃ l', on t (loadRolesById ids) l = .ok ((), l') ∧ l'.roles.Reflects t.roles ∧
      ∀ id ∈ ids, l'.roles.KnowsId id := by
  unfold loadRolesById
  rw [on_get_bind, on_bind_of_ok (on_lift (on_fetchRolesById _)), on_modify]
  refine ⟨_, rfl, h.recordById _ fun _ => Catalogue.mem_withIds, fun id hi => ?_⟩
  refine Memo.knowsId_recordById ?_
  rw [Memo.mem_unseenIds]
  by_cases hk : l.roles.KnowsId id
  · exact Or.inr hk
  · exact Or.inl ⟨hi, hk⟩

end Provisioning.Resolving
