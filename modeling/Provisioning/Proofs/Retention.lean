import Provisioning.Proofs.Grant.Applied
import Provisioning.Proofs.Host

/-!
No user loses its last grant.

Whatever requests come, under any policies and with any questions unanswered, a user who has grants
goes on to have some, and what a request stores for a user is tidy. All that is needed is that what
was stored for each user at the start was of that user.
-/

namespace Provisioning

open Resolving

/-! ### One request -/

section Applies

variable {t : Tenant} {p : Policy} {q : HostRequest} {done : GrantChanges}

/-- A verdict on a request leaves tidy grants, and some if there were some or some were asked
for. -/
lemma Tenant.Applies.tidy (h : t.Applies p q done)
    (hown : ∀ g ∈ t.grantsOf q.user, g.user = q.user) :
    Tidy q.user done.grants ∧
      (t.grantsOf q.user ≠ [] ∨ q.AsksForGrants → done.grants ≠ []) := by
  cases h with
  | initial _ verdict =>
    obtain ⟨l, hon⟩ := on_run'_eq_ok.mp verdict
    obtain ⟨hne, htidy⟩ := applied_of_initial hon
    exact ⟨htidy, fun _ => hne⟩
  | batch is_batch verdict =>
    obtain ⟨l, hon⟩ := on_run'_eq_ok.mp verdict
    rcases applied_of_reconcile hon with ⟨hnil, hdone⟩ | ⟨batch, hne, hfits, hdone, hkeeps⟩
    · rw [hdone]
      refine ⟨tidy_distinctGrants hown, ?_⟩
      rw [ne_eq, ne_eq, distinctGrants_eq_nil]
      rintro (hsome | hasks)
      · exact hsome
      · exact absurd hnil (hasks _ _ is_batch)
    · refine ⟨?_, fun _ => ?_⟩
      · rw [hdone]
        exact (tidy_distinctGrants hown).outcomeOf hfits
      · by_cases hnil : distinctGrants (t.grantsOf q.user) = []
        · rw [hnil] at hfits hdone
          rw [hdone]
          exact outcomeOf_nil_ne_nil hne hfits
        · exact hkeeps hnil

end Applies

/-! ### Runs of requests -/

/-- What is stored for a user is of that user. -/
def Tenant.OwnGrants (t : Tenant) : Prop := ∀ user, ∀ g ∈ t.grantsOf user, g.user = user

lemma Tenant.OwnGrants.addGrant {t : Tenant} (h : t.OwnGrants) (g : Grant) :
    (t.addGrant g).OwnGrants := by
  intro user g' hg'
  change g' ∈ (t.replaceGrants g.user _).grantsOf user at hg'
  rw [Tenant.grantsOf_replaceGrants] at hg'
  split at hg'
  next huser =>
    rw [huser]
    split at hg'
    next => exact h _ g' hg'
    next =>
      rcases List.mem_append.mp hg' with hg' | hg'
      · exact h _ g' hg'
      · rw [List.mem_singleton.mp hg']
  next => exact h user g' hg'

namespace Directory

/-- What is stored for a user of any tenant is of that user. -/
def OwnGrants (d : Directory) : Prop := ∀ name, (d.tenant name).OwnGrants

variable {d : Directory} {s : HostStep}

lemma OwnGrants.update (h : d.OwnGrants) (name : String) {f : Tenant → Tenant}
    (hf : ∀ t : Tenant, t.OwnGrants → (f t).OwnGrants) : (d.update name f).OwnGrants := by
  intro name'
  rw [tenant_update]
  split
  · exact hf _ (h name')
  · exact h name'

lemma ownGrants_empty : (∅ : Directory).OwnGrants := fun _ _ _ hg => by cases hg

lemma ownGrants_sample : sample.OwnGrants :=
  ownGrants_empty.update "acme" fun _ h => (Tenant.OwnGrants.addGrant h _).addGrant _

/-- What a request makes the host store. -/
lemma OwnGrants.tidy (h : d.OwnGrants) {gs : List Grant} (hnew : d.newGrants? s = some gs) :
    Tidy s.request.user gs ∧
      ((d.tenant s.tenant).grantsOf s.request.user ≠ [] ∨ s.request.AsksForGrants → gs ≠ []) := by
  obtain ⟨done, happlies, rfl⟩ := applies_of_newGrants? hnew
  exact happlies.tidy (h s.tenant s.request.user)

lemma OwnGrants.step (h : d.OwnGrants) (s : HostStep) : (d.step s).OwnGrants := by
  intro name user g hg
  rw [grantsOf_step] at hg
  split at hg
  next hstep =>
    obtain ⟨rfl, rfl⟩ := hstep
    rcases hnew : d.newGrants? s with _ | gs
    · rw [hnew] at hg
      exact h _ _ g hg
    · rw [hnew] at hg
      exact (h.tidy hnew).1.own g hg
  next => exact h name user g hg

lemma OwnGrants.steps (h : d.OwnGrants) (ss : List HostStep) : (d.steps ss).OwnGrants := by
  induction ss generalizing d with
  | nil => exact h
  | cons s rest ih => exact ih (h.step s)

lemma grantsOf_step_ne_nil (h : d.OwnGrants) (s : HostStep) {name : String} {user : Uuid}
    (hne : (d.tenant name).grantsOf user ≠ []) : ((d.step s).tenant name).grantsOf user ≠ [] := by
  rw [grantsOf_step]
  split
  next hstep =>
    obtain ⟨rfl, rfl⟩ := hstep
    rcases hnew : d.newGrants? s with _ | gs
    · exact hne
    · exact (h.tidy hnew).2 (Or.inl hne)
  next => exact hne

lemma grantsOf_steps_ne_nil (h : d.OwnGrants) (ss : List HostStep) {name : String} {user : Uuid}
    (hne : (d.tenant name).grantsOf user ≠ []) :
    ((d.steps ss).tenant name).grantsOf user ≠ [] := by
  induction ss generalizing d with
  | nil => exact hne
  | cons s rest ih => exact ih (h.step s) (grantsOf_step_ne_nil h s hne)

/-- What any run of requests does to the grants of users. -/
structure Retains (d : Directory) : Prop where
  /-- A user who has grants at some time has some at all later times. -/
  nonempty (earlier later : List HostStep) (name : String) (user : Uuid) :
    ((d.steps earlier).tenant name).grantsOf user ≠ [] →
      ((d.steps (earlier ++ later)).tenant name).grantsOf user ≠ []
  /-- So does the user of every accepted request that asks for grants. -/
  accepted (earlier : List HostStep) (s : HostStep) (o : Outcome) :
    (d.steps earlier).outcome s = .ok o → o.isOk → s.request.AsksForGrants →
      ((d.steps (earlier ++ [s])).tenant s.tenant).grantsOf s.request.user ≠ []
  /-- What a request makes the host store is stored, and tidy. -/
  stored (earlier : List HostStep) (s : HostStep) (gs : List Grant) :
    (d.steps earlier).newGrants? s = some gs →
      ((d.steps (earlier ++ [s])).tenant s.tenant).grantsOf s.request.user = gs ∧
        Tidy s.request.user gs
  /-- All else stays as it was. -/
  others (earlier : List HostStep) (s : HostStep) (name : String) (user : Uuid) :
    name ≠ s.tenant ∨ user ≠ s.request.user ∨ (d.steps earlier).newGrants? s = none →
      ((d.steps (earlier ++ [s])).tenant name).grantsOf user =
        ((d.steps earlier).tenant name).grantsOf user

/-- **No user loses its last grant**, if what is stored for each user is of that user. -/
theorem OwnGrants.retains (h : d.OwnGrants) : d.Retains where
  nonempty earlier later name user hne := by
    rw [steps_append]
    exact grantsOf_steps_ne_nil (h.steps earlier) later hne
  accepted earlier s o ho hok hasks := by
    obtain ⟨gs, hnew⟩ := Option.isSome_iff_exists.mp (newGrants?_of_isOk ho hok hasks)
    rw [steps_append, steps_cons, steps_nil, grantsOf_step, if_pos ⟨rfl, rfl⟩, hnew]
    exact ((h.steps earlier).tidy hnew).2 (Or.inr hasks)
  stored earlier s gs hnew := by
    rw [steps_append, steps_cons, steps_nil, grantsOf_step, if_pos ⟨rfl, rfl⟩, hnew]
    exact ⟨rfl, ((h.steps earlier).tidy hnew).1⟩
  others earlier s name user hother := by
    rw [steps_append, steps_cons, steps_nil, grantsOf_step]
    split
    next hstep =>
      obtain ⟨rfl, rfl⟩ := hstep
      rcases hother with hname | huser | hnone
      · exact absurd rfl hname
      · exact absurd rfl huser
      · rw [hnone]
        rfl
    next => rfl

/-- The users of the example and the one who is created have grants at the end. -/
theorem retains_sample :
    sample.OwnGrants ∧ ((sample.steps sampleSteps).tenant "acme").grantsOf 4 ≠ [] ∧
      ((sample.steps sampleSteps).tenant "acme").grantsOf 6 ≠ [] := by
  have hretains := ownGrants_sample.retains
  have hcreated : ((sample.steps (sampleSteps.take 2)).outcome sampleSteps[2]).toOption.map
      (·.isOk) = some true := by decide
  obtain ⟨o, ho, hok⟩ := Option.map_eq_some_iff.mp hcreated
  have houtcome : (sample.steps (sampleSteps.take 2)).outcome sampleSteps[2] = .ok o := by
    rcases h : (sample.steps (sampleSteps.take 2)).outcome sampleSteps[2] with e | o'
    · rw [h] at ho
      cases ho
    · rw [h] at ho
      rw [Option.some.inj ho]
  refine ⟨ownGrants_sample, hretains.nonempty [] sampleSteps "acme" 4 (by decide), ?_⟩
  exact hretains.accepted (sampleSteps.take 2) sampleSteps[2] o houtcome hok fun _ _ h => by cases h

end Directory

end Provisioning
