import Provisioning.Proofs.Storing

/-!
No two users have one value of a unique attribute.

A value of a unique attribute is accepted only if no other user has it, and a request gives values
to its own user alone. So if no two users share a value at some time, none do after any requests,
under whatever policies and with whatever questions unanswered (`Tenant.UniqueValues`). The
validation knows an attribute by its key and the store by its identifier, so all of this needs that
identifiers are distinct.
-/

namespace Provisioning

/-- No two users have one stored value of a unique attribute. -/
def Tenant.UniqueValues (t : Tenant) : Prop :=
  ∀ d ∈ t.definitions.values, d.unique → ∀ user user' value,
    t.valueOf user d.id = some value → t.valueOf user' d.id = some value → user = user'

lemma Tenant.uniqueValues_of_values_eq_empty {t : Tenant} (h : t.values = ∅) :
    t.UniqueValues := by
  intro d _ _ user user' value hvalue _
  unfold valueOf at hvalue
  rw [h] at hvalue
  cases hvalue

/-! ### One outcome -/

section Store

variable {t : Tenant} {o : Outcome} {except : Option Uuid}
  (hsound : o.isOk → ∀ v, o.attributes = some v → v.Sound t except)
  (hexcept : ∀ user, user ≠ o.user → some user ≠ except)

include hsound hexcept

/-- A value of a unique attribute that the user of an outcome has then is not one that another user
had. -/
lemma Tenant.valueOf_store_ne (hunique : t.UniqueValues) {d : AttributeDefinition}
    (hd : d ∈ t.definitions.values) (hdunique : d.unique) {user : Uuid} (hne : user ≠ o.user)
    {value : String} (hvalue : (t.store o).valueOf o.user d.id = some value) :
    t.valueOf user d.id ≠ some value := by
  intro hother
  rw [valueOf_store] at hvalue
  split at hvalue
  next => cases hvalue
  next =>
    rcases hlatest : ValueRow.latest? o.rows (o.user, d.id) with _ | value'
    · -- the value was there before
      rw [hlatest] at hvalue
      exact hne (hunique d hd hdunique user o.user value hother hvalue)
    · -- the value was accepted, and so looked for
      rw [hlatest] at hvalue
      obtain rfl := Option.some.inj hvalue
      obtain ⟨row, hrow, hkey, rfl⟩ := ValueRow.mem_of_latest? hlatest
      obtain ⟨hok, v, hv, a, ha, rfl⟩ := Outcome.mem_rows hrow
      have hresult : v.result.ok := by
        have hall := (Bool.and_eq_true_iff.mp hok).1
        rw [hv] at hall
        exact hall
      exact (hsound hok v hv).free hresult d hd hdunique a ha (congrArg Prod.snd hkey) user
        (hexcept user hne) hother

/-- Storing an outcome does not make two users share a value. -/
lemma Tenant.UniqueValues.store (hunique : t.UniqueValues) : (t.store o).UniqueValues := by
  intro d hd hdunique user user' value hvalue hvalue'
  have hdefinitions : (t.store o).definitions = t.definitions := by
    obtain ⟨values, grants, hstore⟩ := t.store_eq o
    rw [hstore]
  rw [hdefinitions] at hd
  by_cases huser : user = o.user <;> by_cases huser' : user' = o.user
  · rw [huser, huser']
  · subst huser
    rw [valueOf_store_of_ne huser'] at hvalue'
    exact absurd hvalue' (valueOf_store_ne hsound hexcept hunique hd hdunique huser' hvalue)
  · subst huser'
    rw [valueOf_store_of_ne huser] at hvalue
    exact absurd hvalue (valueOf_store_ne hsound hexcept hunique hd hdunique huser hvalue')
  · rw [valueOf_store_of_ne huser] at hvalue
    rw [valueOf_store_of_ne huser'] at hvalue'
    exact hunique d hd hdunique user user' value hvalue hvalue'

end Store

/-! ### Runs of requests -/

namespace Directory

variable {d : Directory} {name : String}

lemma uniqueValues_step (hids : (d.tenant name).DistinctIds)
    (hunique : (d.tenant name).UniqueValues) (s : HostStep) :
    ((d.step s).tenant name).UniqueValues := by
  rcases ho : d.outcome s with e | o
  · rw [tenant_step_of_error ho]
    exact hunique
  · rw [tenant_step_of_ok ho]
    split
    next hname =>
      subst hname
      have huser : o.user = s.request.user := (outcome_spec ho).1
      exact Tenant.UniqueValues.store (fun _ v hv => sound_of_outcome hids ho hv)
        (fun user hne => HostRequest.ownUser_ne (huser ▸ hne)) hunique
    next => exact hunique

/-- **No two users ever have one value of a unique attribute**, if definitions have distinct
identifiers and no two users have one at the start. -/
theorem uniqueValues_steps (hids : (d.tenant name).DistinctIds)
    (hunique : (d.tenant name).UniqueValues) (ss : List HostStep) :
    ((d.steps ss).tenant name).definitions = (d.tenant name).definitions ∧
      ((d.steps ss).tenant name).UniqueValues := by
  refine ⟨definitions_steps d ss name, ?_⟩
  induction ss generalizing d with
  | nil => exact hunique
  | cons s rest ih =>
    obtain ⟨values, grants, hstep⟩ := tenant_step_eq d s name
    have hids' : ((d.step s).tenant name).DistinctIds := by
      rw [hstep]
      exact hids
    exact ih hids' (uniqueValues_step hids hunique s)

/-- Requests for the example: two users want one login, which the second gets when the first has
given it up. -/
def sampleClaims : List HostStep :=
  [createReader 6 "bob", createReader 7 "bob",
    ⟨"acme", .standard, [], .patch ⟨6, 4, some (.ofList [("login", .null)]), []⟩⟩,
    createReader 7 "bob"]

/-- At no time do both users have the login, though both have it at some time. -/
theorem uniqueValues_sample :
    (sampleLogins.tenant "acme").DistinctIds ∧ (sampleLogins.tenant "acme").UniqueValues ∧
      (∀ n, ((sampleLogins.steps (sampleClaims.take n)).tenant "acme").UniqueValues) ∧
      ((sampleLogins.steps (sampleClaims.take 2)).tenant "acme").valueOf 6 10 = some "bob" ∧
      ((sampleLogins.steps sampleClaims).tenant "acme").valueOf 7 10 = some "bob" := by
  have hids : (sampleLogins.tenant "acme").DistinctIds := by decide +kernel
  have hunique : (sampleLogins.tenant "acme").UniqueValues :=
    Tenant.uniqueValues_of_values_eq_empty (by decide +kernel)
  refine ⟨hids, hunique, fun n => ?_, by decide +kernel, by decide +kernel⟩
  exact (uniqueValues_steps hids hunique (sampleClaims.take n)).2

end Directory

end Provisioning
