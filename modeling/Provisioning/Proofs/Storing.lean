import Provisioning.Proofs.Validation
import Provisioning.Proofs.Values

/-!
All or nothing.

The two halves of a request are judged each on its own, and what follows is stored only if neither
was rejected (`Directory.AllOrNothing`). Then exactly what the outcome says is stored
(`Directory.Stores`); in every other case no tenant changes, though one half may have been
acceptable.
-/

namespace Provisioning

/-! ### Halves -/

namespace HostRequest

/-- The user whose own values do not count as taken. -/
def ownUser : HostRequest → Option Uuid
  | create _ => none
  | patch r => some r.user
  | associate _ _ _ => none

lemma ownUser_ne {q : HostRequest} {user : Uuid} (h : user ≠ q.user) : some user ≠ q.ownUser := by
  cases q with
  | create | associate => exact Option.some_ne_none user
  | patch r => exact fun huser => h (Option.some.inj huser)

end HostRequest

namespace Policy

variable {p : Policy} {t : Tenant} {q : HostRequest}

lemma sound_of_judgeAttributes (hids : t.DistinctIds) {v : Validation}
    (h : (p.judgeAttributes q).on t = .ok (some v)) : v.Sound t q.ownUser := by
  cases q with
  | create r =>
    obtain ⟨v', hv, h⟩ := (Session.on_bind_eq_ok t).mp h
    obtain rfl := Option.some.inj (Except.ok.inj h)
    exact sound_of_validateAttributes hids hv
  | patch r =>
    obtain ⟨user, acting, _ | proposed, changes⟩ := r
    · cases h
    · obtain ⟨v', hv, h⟩ := (Session.on_bind_eq_ok t).mp h
      obtain rfl := Option.some.inj (Except.ok.inj h)
      exact sound_of_validateAttributes hids hv
  | associate => cases h

end Policy

/-! ### Outcomes -/

namespace Outcome

variable {o : Outcome}

/-- One of the halves was rejected. -/
def Rejected (o : Outcome) : Prop :=
  (∃ v, o.attributes = some v ∧ v.result.ok = false) ∨
    ∃ r errors, o.grants = some (.rejected r errors)

lemma isOk_eq_false_iff : o.isOk = false ↔ o.Rejected := by
  obtain ⟨user, attributes, grants⟩ := o
  rcases attributes with _ | v <;> rcases grants with _ | ⟨done⟩ | ⟨r, errors⟩ <;>
    simp [isOk, Rejected, Reconciliation.isApplied]

lemma isOk_iff : o.isOk ↔ ¬o.Rejected := by
  rw [← isOk_eq_false_iff, Bool.not_eq_false]

/-- Nothing is to be stored of an outcome that is not ok. -/
lemma nothing_of_not_isOk (h : o.isOk = false) :
    o.rows = [] ∧ o.cleared = [] ∧ o.newGrants? = none := by
  unfold rows cleared newGrants?
  simp [h]

/-- Every row is of the user, and stores an accepted value. -/
lemma mem_rows {row : ValueRow} (h : row ∈ o.rows) :
    o.isOk ∧ ∃ v, o.attributes = some v ∧ ∃ a ∈ v.values,
      row = ⟨o.user, a.attributeId, a.encoded⟩ := by
  unfold rows at h
  split at h
  next hok =>
    rcases hattributes : o.attributes with _ | v
    · rw [hattributes] at h
      cases h
    · rw [hattributes] at h
      obtain ⟨a, ha, rfl⟩ := List.mem_map.mp h
      exact ⟨hok, v, rfl, a, ha, rfl⟩
  next => cases h

lemma mem_cleared {attributeId : Uuid} (h : attributeId ∈ o.cleared) :
    ∃ v, o.attributes = some v ∧ attributeId ∈ v.cleared := by
  unfold cleared at h
  split at h
  next =>
    rcases hattributes : o.attributes with _ | v
    · rw [hattributes] at h
      cases h
    · rw [hattributes] at h
      exact ⟨v, rfl, h⟩
  next => cases h

section Accepted

variable {v : Validation} (hok : o.isOk) (hattributes : o.attributes = some v)

include hok hattributes

lemma rows_eq : o.rows = v.rows o.user := by
  unfold rows
  rw [if_pos hok, hattributes]
  rfl

lemma cleared_eq : o.cleared = v.cleared := by
  unfold cleared
  rw [if_pos hok, hattributes]
  rfl

end Accepted

end Outcome

lemma Validation.map_key_rows (v : Validation) (user : Uuid) :
    (v.rows user).map ValueRow.key =
      (v.values.map (·.attributeId)).map fun attributeId => (user, attributeId) := by
  simp [rows, ValueRow.key]

namespace Tenant

variable {t : Tenant} {o : Outcome}

lemma store_of_not_isOk (h : o.isOk = false) : t.store o = t := by
  obtain ⟨hrows, hcleared, hgrants⟩ := Outcome.nothing_of_not_isOk h
  unfold store
  rw [hrows, hcleared, hgrants]
  rfl

/-- What no row and no clear is about stays as it was. -/
lemma valueOf_store_of_untouched {user attributeId : Uuid}
    (hrows : ∀ row ∈ o.rows, row.key ≠ (user, attributeId))
    (hcleared : ¬(user = o.user ∧ attributeId ∈ o.cleared)) :
    (t.store o).valueOf user attributeId = t.valueOf user attributeId := by
  rw [valueOf_store, if_neg hcleared, ValueRow.latest?_eq_none.mpr hrows]
  rfl

/-- Nobody else gets a value or loses one. -/
lemma valueOf_store_of_ne {user : Uuid} (h : user ≠ o.user) (attributeId : Uuid) :
    (t.store o).valueOf user attributeId = t.valueOf user attributeId := by
  refine valueOf_store_of_untouched (fun row hrow hkey => ?_) fun hcleared => h hcleared.1
  obtain ⟨-, v, -, a, -, rfl⟩ := Outcome.mem_rows hrow
  exact h (congrArg Prod.fst hkey).symm

/-- An attribute that is neither given a value nor cleared stays as it was. -/
lemma valueOf_store_of_unchanged {attributeId : Uuid}
    (h : ∀ v, o.attributes = some v →
      attributeId ∉ v.values.map (·.attributeId) ∧ attributeId ∉ v.cleared) (user : Uuid) :
    (t.store o).valueOf user attributeId = t.valueOf user attributeId := by
  refine valueOf_store_of_untouched (fun row hrow hkey => ?_) fun hcleared => ?_
  · obtain ⟨-, v, hv, a, ha, rfl⟩ := Outcome.mem_rows hrow
    exact (h v hv).1 (List.mem_map.mpr ⟨a, ha, congrArg Prod.snd hkey⟩)
  · obtain ⟨v, hv, hmem⟩ := Outcome.mem_cleared hcleared.2
    exact (h v hv).2 hmem

section Accepted

variable {v : Validation} (hok : o.isOk) (hattributes : o.attributes = some v)

include hok hattributes

lemma valueOf_store_of_mem_cleared {attributeId : Uuid} (h : attributeId ∈ v.cleared) :
    (t.store o).valueOf o.user attributeId = none := by
  rw [valueOf_store, if_pos ⟨rfl, (Outcome.cleared_eq hok hattributes).symm ▸ h⟩]

/-- As no attribute is changed twice, no row is overwritten and none is cleared. -/
lemma valueOf_store_of_mem_values (hdistinct : (v.values.map (·.attributeId) ++ v.cleared).Nodup)
    {a : AcceptedValue} (h : a ∈ v.values) :
    (t.store o).valueOf o.user a.attributeId = some a.encoded := by
  obtain ⟨hnodup, -, hdisjoint⟩ := List.nodup_append.mp hdistinct
  have hid : a.attributeId ∈ v.values.map (·.attributeId) := List.mem_map.mpr ⟨a, h, rfl⟩
  have hkept : a.attributeId ∉ v.cleared := fun hcleared => hdisjoint _ hid _ hcleared rfl
  have hkeys : ((v.rows o.user).map ValueRow.key).Nodup := by
    rw [v.map_key_rows]
    exact hnodup.map fun _ _ heq => congrArg Prod.snd heq
  have hrow : (⟨o.user, a.attributeId, a.encoded⟩ : ValueRow) ∈ v.rows o.user :=
    List.mem_map.mpr ⟨a, h, rfl⟩
  have hlatest : ValueRow.latest? (v.rows o.user) (o.user, a.attributeId) = some a.encoded :=
    ValueRow.latest?_of_mem hkeys hrow
  rw [valueOf_store, Outcome.cleared_eq hok hattributes, Outcome.rows_eq hok hattributes,
    if_neg fun hcleared => hkept hcleared.2, hlatest]
  rfl

end Accepted

end Tenant

/-! ### Requests -/

namespace Directory

/-- What is kept after a request with an outcome is what was kept, changed as the outcome says. -/
structure Stores (d : Directory) (s : HostStep) (o : Outcome) : Prop where
  /-- Every accepted value is stored in its encoded form. -/
  accepted (v : Validation) : o.attributes = some v → ∀ a ∈ v.values,
    ((d.step s).tenant s.tenant).valueOf s.request.user a.attributeId = some a.value.encode
  /-- What is cleared has no value. -/
  cleared (v : Validation) : o.attributes = some v → ∀ attributeId ∈ v.cleared,
    ((d.step s).tenant s.tenant).valueOf s.request.user attributeId = none
  /-- The other attributes of the user stay as they were. -/
  unchanged (attributeId : Uuid) :
    (∀ v, o.attributes = some v →
      attributeId ∉ v.values.map (·.attributeId) ∧ attributeId ∉ v.cleared) →
    ((d.step s).tenant s.tenant).valueOf s.request.user attributeId =
      (d.tenant s.tenant).valueOf s.request.user attributeId
  /-- The grants of the user are the new ones, if the request has a half about grants. -/
  grants : if s.request.hasGrants then
      ∃ done, o.grants = some (.applied done) ∧ o.newGrants? = some done.grants ∧
        ((d.step s).tenant s.tenant).grantsOf s.request.user = done.grants
    else ((d.step s).tenant s.tenant).grantsOf s.request.user =
      (d.tenant s.tenant).grantsOf s.request.user
  /-- Other users keep what they have. -/
  others (user : Uuid) : user ≠ s.request.user →
    (∀ attributeId, ((d.step s).tenant s.tenant).valueOf user attributeId =
      (d.tenant s.tenant).valueOf user attributeId) ∧
    ((d.step s).tenant s.tenant).grantsOf user = (d.tenant s.tenant).grantsOf user
  /-- So do other tenants. -/
  tenants (name : String) : name ≠ s.tenant → (d.step s).tenant name = d.tenant name
  /-- Nothing but values and grants changes. -/
  kept : ((d.step s).tenant s.tenant).definitions = (d.tenant s.tenant).definitions ∧
    ((d.step s).tenant s.tenant).roles = (d.tenant s.tenant).roles ∧
    ((d.step s).tenant s.tenant).accounts = (d.tenant s.tenant).accounts

/-- What a request comes to, and what is kept then. -/
structure AllOrNothing (d : Directory) (s : HostStep) : Prop where
  /-- The halves are judged each on its own, the attributes first. -/
  halves : d.outcome s = do
    let attributes ← d.judged s (s.policy.judgeAttributes s.request)
    let grants ← d.judged s (s.policy.judgeGrants s.request)
    return ⟨s.request.user, attributes, grants⟩
  /-- A request that fails changes nothing. -/
  failed (e : Failure) : d.outcome s = .error e → ∀ name, (d.step s).tenant name = d.tenant name
  /-- If one half was rejected, nothing is to be stored, and nothing changes. -/
  rejected (o : Outcome) : d.outcome s = .ok o → o.Rejected →
    (o.isOk = false ∧ o.rows = [] ∧ o.cleared = [] ∧ o.newGrants? = none) ∧
      ∀ name, (d.step s).tenant name = d.tenant name
  /-- Otherwise the outcome is stored. -/
  accepted (o : Outcome) : d.outcome s = .ok o → ¬o.Rejected → o.isOk ∧ d.Stores s o

section AllOrNothing

variable {d : Directory} {s : HostStep} {o : Outcome}

lemma sound_of_outcome (hids : (d.tenant s.tenant).DistinctIds) (h : d.outcome s = .ok o)
    {v : Validation} (hv : o.attributes = some v) :
    v.Sound (d.tenant s.tenant) s.request.ownUser := by
  obtain ⟨-, hattributes, -⟩ := on_of_outcome h
  rw [hv] at hattributes
  exact Policy.sound_of_judgeAttributes hids hattributes

/-- The grants that are stored are those of the half about grants. -/
lemma grantsOf_step_of_isOk (h : d.outcome s = .ok o) (hok : o.isOk) :
    if s.request.hasGrants then
      ∃ done, o.grants = some (.applied done) ∧ o.newGrants? = some done.grants ∧
        ((d.step s).tenant s.tenant).grantsOf s.request.user = done.grants
    else ((d.step s).tenant s.tenant).grantsOf s.request.user =
      (d.tenant s.tenant).grantsOf s.request.user := by
  obtain ⟨-, hsome, -⟩ := outcome_spec h
  have hgrants : ((d.step s).tenant s.tenant).grantsOf s.request.user =
      o.newGrants?.getD ((d.tenant s.tenant).grantsOf s.request.user) := by
    rw [grantsOf_step, if_pos ⟨rfl, rfl⟩, newGrants?_of_outcome h]
  rw [hgrants, ← hsome]
  split
  next hhas =>
    obtain ⟨gs, hnew⟩ := Option.isSome_iff_exists.mp (Outcome.isSome_newGrants? hok hhas)
    obtain ⟨done, hdone, rfl⟩ := Outcome.newGrants?_eq_some hnew
    rw [hnew]
    exact ⟨done, hdone, rfl, rfl⟩
  next hhas =>
    rw [Outcome.newGrants?_of_grants_eq_none (Option.not_isSome_iff_eq_none.mp hhas)]
    rfl

lemma stores_of_isOk (hids : (d.tenant s.tenant).DistinctIds) (h : d.outcome s = .ok o)
    (hok : o.isOk) : d.Stores s o := by
  have htenant : (d.step s).tenant s.tenant = (d.tenant s.tenant).store o := by
    rw [tenant_step_of_ok h, if_pos rfl]
  have huser : o.user = s.request.user := (outcome_spec h).1
  obtain ⟨values, grants, hstep⟩ := tenant_step_eq d s s.tenant
  exact {
    accepted := fun v hv a ha => by
      have hsound := sound_of_outcome hids h hv
      rw [htenant, ← huser, ← hsound.encoded a ha]
      exact Tenant.valueOf_store_of_mem_values hok hv hsound.distinct ha
    cleared := fun v hv attributeId hcleared => by
      rw [htenant, ← huser]
      exact Tenant.valueOf_store_of_mem_cleared hok hv hcleared
    unchanged := fun attributeId hnone => by
      rw [htenant]
      exact Tenant.valueOf_store_of_unchanged hnone _
    grants := grantsOf_step_of_isOk h hok
    others := fun user hne => by
      rw [grantsOf_step, if_neg fun hself => hne hself.2, htenant]
      exact ⟨Tenant.valueOf_store_of_ne (huser ▸ hne), rfl⟩
    tenants := fun name hne => by
      rw [tenant_step_of_ok h, if_neg hne]
    kept := by
      rw [hstep]
      exact ⟨rfl, rfl, rfl⟩ }

/-- **All or nothing**: a request is stored as its outcome says, or it changes nothing that is kept
for any tenant. -/
theorem allOrNothing (hids : (d.tenant s.tenant).DistinctIds) : d.AllOrNothing s where
  halves := outcome_eq d s
  failed e h name := tenant_step_of_error h
  rejected o h hrejected := by
    have hok := Outcome.isOk_eq_false_iff.mpr hrejected
    refine ⟨⟨hok, Outcome.nothing_of_not_isOk hok⟩, fun name => ?_⟩
    rw [tenant_step_of_ok h, Tenant.store_of_not_isOk hok]
    exact ite_self _
  accepted o h hnot :=
    have hok := Outcome.isOk_iff.mpr hnot
    ⟨hok, stores_of_isOk hids h hok⟩

/-- A tenant for examples where no two users may have one login. -/
def sampleLogins : Directory :=
  sample.update "acme" fun t => t.addDefinition ⟨10, "login", .text, false, true, false, none, true⟩

/-- A request to create a reader with a login. -/
def createReader (user : Uuid) (login : String) : HostStep :=
  ⟨"acme", .standard, [],
    .create ⟨user, .ofList [("login", .string login)], [⟨"main", "reader"⟩], some 4⟩⟩

/-- The login of the first user is stored. The second wants the same one and so does not even get
grants. -/
theorem allOrNothing_sample :
    (sampleLogins.tenant "acme").DistinctIds ∧
      ((sampleLogins.step (createReader 6 "bob")).tenant "acme").valueOf 6 10 = some "bob" ∧
      ∀ name, ((sampleLogins.step (createReader 6 "bob")).step (createReader 7 "bob")).tenant name =
        (sampleLogins.step (createReader 6 "bob")).tenant name := by
  have hids : (sampleLogins.tenant "acme").DistinctIds := by decide +kernel
  have hids' : ((sampleLogins.step (createReader 6 "bob")).tenant "acme").DistinctIds := by
    decide +kernel
  have hall : sampleLogins.AllOrNothing (createReader 6 "bob") := allOrNothing hids
  have hall' : (sampleLogins.step (createReader 6 "bob")).AllOrNothing (createReader 7 "bob") :=
    allOrNothing hids'
  have hfirst : (sampleLogins.outcome (createReader 6 "bob")).toOption.map (fun o =>
      (o.isOk, o.attributes.map fun v => v.values.map fun a => (a.attributeId, a.value.encode))) =
      some (true, some [(10, "bob")]) := by decide +kernel
  have hsecond : ((sampleLogins.step (createReader 6 "bob")).outcome
      (createReader 7 "bob")).toOption.map Outcome.isOk = some false := by decide +kernel
  refine ⟨hids, ?_, ?_⟩
  · obtain ⟨o, ho, hfound⟩ := map_toOption_eq_some.mp hfirst
    obtain ⟨hok, hvalues⟩ := Prod.mk.inj hfound
    obtain ⟨v, hv, hvalues⟩ := Option.map_eq_some_iff.mp hvalues
    obtain ⟨a, ha, hpair⟩ := List.mem_map.mp
      (hvalues.symm ▸ List.mem_singleton_self ((10 : Uuid), "bob"))
    obtain ⟨hid, hencode⟩ := Prod.mk.inj hpair
    have hstores := (hall.accepted o ho (Outcome.isOk_iff.mp hok)).2
    have hstored := hstores.accepted v hv a ha
    rw [hid, hencode] at hstored
    exact hstored
  · obtain ⟨o, ho, hok⟩ := map_toOption_eq_some.mp hsecond
    exact (hall'.rejected o ho (Outcome.isOk_eq_false_iff.mp hok)).2

end AllOrNothing

end Directory

end Provisioning
