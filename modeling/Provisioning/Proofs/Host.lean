import Provisioning.Host
import Provisioning.Proofs.Session

/-!
What a request to the host changes.

Requests come one after the other, for any tenants and under any policies, and any questions may go
unanswered at any time (`HostStep`). A request is judged half by half, its attributes first
(`Directory.outcome_eq`). It changes at most the values and the grants of its user, and the grants
only to those that the verdict on it says (`Tenant.Applies`); all else stays.
-/

namespace Provisioning

/-! ### Requests -/

namespace HostRequest

/-- The user that a request is about. -/
def user : HostRequest → Uuid
  | create r => r.user
  | patch r => r.user
  | associate user _ _ => user

/-- Who makes a request. -/
def acting : HostRequest → Option Uuid
  | create r => r.acting
  | patch r => some r.acting
  | associate _ acting _ => some acting

/-- Who wants to change the grants of a user who exists, and how. -/
def batch? : HostRequest → Option (Uuid × List Change)
  | create _ => none
  | patch r => some (r.acting, r.changes)
  | associate _ acting changes => some (acting, changes)

/-- The request is to create a user or to change something. -/
def AsksForGrants (q : HostRequest) : Prop :=
  ∀ acting changes, q.batch? = some (acting, changes) → changes ≠ []

/-- The request has a half about grants. -/
def hasGrants : HostRequest → Bool
  | create _ => true
  | patch r => !r.changes.isEmpty
  | associate _ _ _ => true

lemma AsksForGrants.hasGrants {q : HostRequest} (h : q.AsksForGrants) : q.hasGrants := by
  cases q with
  | create | associate => rfl
  | patch r => simpa [HostRequest.hasGrants] using h r.acting r.changes rfl

lemma acting_of_batch? {q : HostRequest} {acting : Uuid} {changes : List Change}
    (h : q.batch? = some (acting, changes)) : q.acting = some acting := by
  cases q <;> cases h <;> rfl

end HostRequest

/-- Judges a request. A verdict on grants alone is an outcome without attributes. -/
def Policy.judge (p : Policy) : HostRequest → Session Outcome
  | .create r => p.createUser r
  | .patch r => p.patchUser r
  | .associate user acting changes =>
    (fun verdict => ⟨user, none, some verdict⟩) <$> p.associate user acting changes

/-- Judges the half of a request that is about attributes. -/
def Policy.judgeAttributes (p : Policy) : HostRequest → Session (Option Validation)
  | .create r => some <$> p.validateAttributes r.attributes .new
  | .patch r => p.patchAttributes r
  | .associate _ _ _ => pure none

/-- Judges the half of a request that is about grants. -/
def Policy.judgeGrants (p : Policy) : HostRequest → Session (Option Reconciliation)
  | .create r => some <$> (p.rule.initial r.user r.acting (p.requestedGrants r.grants)).run' ∅
  | .patch r => p.patchGrants r
  | .associate user acting changes => some <$> p.associate user acting changes

/-- By the verdict on it, a request makes changes to the grants of its user. -/
inductive Tenant.Applies (t : Tenant) (p : Policy) (q : HostRequest) (done : GrantChanges) :
    Prop where
  /-- These are the first grants of a new user. -/
  | initial {r : CreateRequest} (is_create : q = .create r)
    (verdict : ((p.rule.initial q.user q.acting (p.requestedGrants r.grants)).run' ∅).on t =
      .ok (.applied done))
  /-- These are changes to the grants that the user has. -/
  | batch {acting : Uuid} {changes : List Change} (is_batch : q.batch? = some (acting, changes))
    (verdict : (p.reconcile q.user acting (t.grantsOf q.user) changes).on t =
      .ok (.applied done))

/-- A request, and what holds at its time. -/
structure HostStep where
  tenant : String
  policy : Policy
  /-- The sorts of questions that are not answered. -/
  failing : List Call
  request : HostRequest

namespace Directory

/-- Serves a request. -/
def step (d : Directory) (s : HostStep) : Directory :=
  { d with failing := s.failing }.serve s.tenant s.policy s.request

/-- Serves requests one after the other. -/
def steps (d : Directory) (ss : List HostStep) : Directory := ss.foldl step d

/-- What a request comes to. -/
def outcome (d : Directory) (s : HostStep) : Except Failure Outcome :=
  ({ d with failing := s.failing }.run s.tenant (s.policy.judge s.request)).2

/-- What becomes of work at the time of a request. -/
def judged {α : Type} (d : Directory) (s : HostStep) (work : Session α) : Except Failure α :=
  ({ d with failing := s.failing }.run s.tenant work).2

/-- The grants that a request makes the host store, if it makes it store any. -/
def newGrants? (d : Directory) (s : HostStep) : Option (List Grant) :=
  match d.outcome s with
  | .ok o => o.newGrants?
  | .error _ => none

@[simp] lemma steps_nil (d : Directory) : d.steps [] = d := rfl

@[simp] lemma steps_cons (d : Directory) (s : HostStep) (ss : List HostStep) :
    d.steps (s :: ss) = (d.step s).steps ss := rfl

lemma steps_append (d : Directory) (ss ss' : List HostStep) :
    d.steps (ss ++ ss') = (d.steps ss).steps ss' := List.foldl_append

end Directory

/-! ### Storing -/

namespace Tenant

lemma clearValue_eq (t : Tenant) (user attributeId : Uuid) :
    ∃ values, t.clearValue user attributeId = { t with values := values } := by
  unfold clearValue
  split
  next => exact ⟨_, rfl⟩
  next => exact ⟨t.values, rfl⟩

/-- Storing values changes nothing but values. -/
lemma storeValues_eq (t : Tenant) (rows : List ValueRow) (cleared : List (Uuid × Uuid)) :
    ∃ values, t.storeValues rows cleared = { t with values := values } := by
  unfold storeValues
  induction rows generalizing t with
  | cons row rest ih => exact ih (t.storeRow row)
  | nil =>
    induction cleared generalizing t with
    | nil => exact ⟨t.values, rfl⟩
    | cons key rest ih =>
      obtain ⟨values, hclear⟩ := t.clearValue_eq key.1 key.2
      obtain ⟨values', hrest⟩ := ih (t.clearValue key.1 key.2)
      refine ⟨values', hrest.trans ?_⟩
      rw [hclear]

lemma grantsOf_replaceGrants (t : Tenant) (user user' : Uuid) (gs : List Grant) :
    (t.replaceGrants user gs).grantsOf user' = if user' = user then gs else t.grantsOf user' := by
  unfold replaceGrants grantsOf
  rw [SortedMap.get?_insert]
  split <;> rfl

variable (t : Tenant) (o : Outcome)

/-- What is stored after an outcome: the grants that follow from it, if any, and else what was
there. -/
lemma grantsOf_store (user : Uuid) :
    (t.store o).grantsOf user =
      if user = o.user then o.newGrants?.getD (t.grantsOf user) else t.grantsOf user := by
  obtain ⟨values, hvalues⟩ :=
    t.storeValues_eq o.rows (o.cleared.map fun attributeId => (o.user, attributeId))
  unfold store
  rw [hvalues]
  rcases o.newGrants? with _ | gs
  · exact (ite_self _).symm
  · exact grantsOf_replaceGrants _ _ _ _

/-- Nothing but values and grants is stored. -/
lemma store_eq : ∃ values grants, t.store o = { t with values := values, grants := grants } := by
  obtain ⟨values, hvalues⟩ :=
    t.storeValues_eq o.rows (o.cleared.map fun attributeId => (o.user, attributeId))
  unfold store
  rw [hvalues]
  split
  · exact ⟨values, _, rfl⟩
  · exact ⟨values, t.grants, rfl⟩

end Tenant

namespace Outcome

variable {o : Outcome}

lemma newGrants?_eq_some {gs : List Grant} (h : o.newGrants? = some gs) :
    ∃ done, o.grants = some (.applied done) ∧ done.grants = gs := by
  unfold newGrants? at h
  split at h
  · obtain ⟨verdict, hverdict, h⟩ := Option.bind_eq_some_iff.mp h
    cases verdict with
    | applied done => exact ⟨done, hverdict, Option.some.inj h⟩
    | rejected => cases h
  · cases h

lemma newGrants?_of_grants_eq_none (h : o.grants = none) : o.newGrants? = none := by
  unfold newGrants?
  rw [h]
  exact ite_self _

lemma isSome_newGrants? (hok : o.isOk) (hsome : o.grants.isSome) : o.newGrants?.isSome := by
  obtain ⟨verdict, hverdict⟩ := Option.isSome_iff_exists.mp hsome
  have happlied : verdict.isApplied := by
    have hgrants := (Bool.and_eq_true_iff.mp hok).2
    rw [hverdict] at hgrants
    exact hgrants
  unfold newGrants?
  rw [if_pos hok, hverdict]
  cases verdict with
  | applied done => rfl
  | rejected => cases happlied

end Outcome

/-! ### Halves -/

namespace Policy

variable {t : Tenant} {p : Policy} {q : HostRequest}

/-- A verdict on a request is made of the verdicts on its halves, attributes first. -/
lemma run_judge (p : Policy) (d : Directory) (name : String) (q : HostRequest) :
    (d.run name (p.judge q)).2 = do
      let attributes ← (d.run name (p.judgeAttributes q)).2
      let grants ← (d.run name (p.judgeGrants q)).2
      return ⟨q.user, attributes, grants⟩ := by
  cases q with
  | create r =>
    simp only [judge, createUser, judgeAttributes, judgeGrants, Directory.run_bind,
      Directory.run_map]
    rcases (d.run name (p.validateAttributes r.attributes .new)).2 with e | v
    · rfl
    · rcases (d.run name _).2 with e | verdict <;> rfl
  | patch r =>
    simp only [judge, patchUser, judgeAttributes, judgeGrants, Directory.run_bind]
    rfl
  | associate user acting changes =>
    simp only [judge, judgeAttributes, judgeGrants, Directory.run_map]
    rcases (d.run name (p.associate user acting changes)).2 with e | verdict <;> rfl

lemma applies_of_associate {user acting : Uuid} {changes : List Change} {done : GrantChanges}
    (h : (p.associate user acting changes).on t = .ok (.applied done)) :
    (p.reconcile user acting (t.grantsOf user) changes).on t = .ok (.applied done) := by
  obtain ⟨current, hcurrent, hv⟩ := (Session.on_bind_eq_ok t).mp h
  obtain rfl := Except.ok.inj hcurrent
  exact hv

/-- What the half about grants comes to. -/
lemma judgeGrants_spec {grants : Option Reconciliation}
    (h : (p.judgeGrants q).on t = .ok grants) :
    grants.isSome = q.hasGrants ∧ ∀ done, grants = some (.applied done) → t.Applies p q done := by
  cases q with
  | create r =>
    obtain ⟨verdict, hv, h⟩ := (Session.on_bind_eq_ok t).mp h
    obtain rfl := Except.ok.inj h
    refine ⟨rfl, fun done hdone => .initial rfl ?_⟩
    obtain rfl := Option.some.inj hdone
    exact hv
  | patch r =>
    obtain ⟨user, acting, attributes, _ | ⟨change, rest⟩⟩ := r
    · obtain rfl := Except.ok.inj h
      exact ⟨rfl, fun done h => by cases h⟩
    · obtain ⟨verdict, hv, h⟩ := (Session.on_bind_eq_ok t).mp h
      obtain rfl := Except.ok.inj h
      refine ⟨rfl, fun done hdone => .batch rfl ?_⟩
      obtain rfl := Option.some.inj hdone
      exact applies_of_associate hv
  | associate user acting changes =>
    obtain ⟨verdict, hv, h⟩ := (Session.on_bind_eq_ok t).mp h
    obtain rfl := Except.ok.inj h
    refine ⟨rfl, fun done hdone => .batch rfl ?_⟩
    obtain rfl := Option.some.inj hdone
    exact applies_of_associate hv

end Policy

/-! ### Steps -/

namespace Directory

lemma tenant_update (d : Directory) (name name' : String) (f : Tenant → Tenant) :
    (d.update name f).tenant name' =
      if name' = name then f (d.tenant name') else d.tenant name' := by
  unfold update tenant
  rw [SortedMap.get?_insert]
  split
  next h => rw [h]; rfl
  next => rfl

section Keep

variable {α : Type} (name' : String) {name : String} {store : Tenant → α → Tenant}
  {p : Directory × Except Failure α}

lemma tenant_keep_of_ok {a : α} (h : p.2 = .ok a) :
    (keep name store p).1.tenant name' =
      if name' = name then store (p.1.tenant name') a else p.1.tenant name' := by
  obtain ⟨d, r⟩ := p
  obtain rfl : r = .ok a := h
  exact tenant_update d name name' _

lemma tenant_keep_of_error {e : Failure} (h : p.2 = .error e) :
    (keep name store p).1.tenant name' = p.1.tenant name' := by
  obtain ⟨d, r⟩ := p
  obtain rfl : r = .error e := h
  rfl

end Keep

variable {d : Directory} {s : HostStep} {name : String}

/-- What a verdict on grants alone comes to. -/
lemma outcome_associate {tenant : String} {policy : Policy} {failing : List Call}
    {user acting : Uuid} {changes : List Change} :
    d.outcome ⟨tenant, policy, failing, .associate user acting changes⟩ =
      (({ d with failing := failing }.run tenant (policy.associate user acting changes)).2.map
        fun verdict => ⟨user, none, some verdict⟩) := by
  exact run_map _ tenant _ _

/-- What is kept for a tenant after a request with an outcome. -/
lemma tenant_step_of_ok {o : Outcome} (h : d.outcome s = .ok o) :
    (d.step s).tenant name =
      if name = s.tenant then (d.tenant name).store o else d.tenant name := by
  obtain ⟨tenant, policy, failing, r | r | ⟨user, acting, changes⟩⟩ := s
  · exact tenant_keep_of_ok name h
  · exact tenant_keep_of_ok name h
  · rw [outcome_associate] at h
    obtain ⟨verdict, hv, rfl⟩ := map_eq_ok.mp h
    refine (tenant_keep_of_ok name hv).trans ?_
    cases verdict <;> rfl

/-- A request that fails changes nothing that is kept. -/
lemma tenant_step_of_error {e : Failure} (h : d.outcome s = .error e) :
    (d.step s).tenant name = d.tenant name := by
  obtain ⟨tenant, policy, failing, r | r | ⟨user, acting, changes⟩⟩ := s
  · exact tenant_keep_of_error name h
  · exact tenant_keep_of_error name h
  · rw [outcome_associate] at h
    rcases hv : ({ d with failing := failing }.run tenant
        (policy.associate user acting changes)).2 with e' | verdict
    · exact tenant_keep_of_error name hv
    · rw [hv] at h
      cases h

/-- A request changes nothing but values and grants. -/
lemma tenant_step_eq (d : Directory) (s : HostStep) (name : String) :
    ∃ values grants,
      (d.step s).tenant name = { d.tenant name with values := values, grants := grants } := by
  rcases h : d.outcome s with e | o
  · rw [tenant_step_of_error h]
    exact ⟨_, _, rfl⟩
  · rw [tenant_step_of_ok h]
    split
    · exact Tenant.store_eq _ _
    · exact ⟨_, _, rfl⟩

lemma roles_step (d : Directory) (s : HostStep) (name : String) :
    ((d.step s).tenant name).roles = (d.tenant name).roles := by
  obtain ⟨values, grants, h⟩ := tenant_step_eq d s name
  rw [h]

/-- What a request comes to is made of the verdicts on its halves. -/
lemma outcome_eq (d : Directory) (s : HostStep) :
    d.outcome s = do
      let attributes ← d.judged s (s.policy.judgeAttributes s.request)
      let grants ← d.judged s (s.policy.judgeGrants s.request)
      return ⟨s.request.user, attributes, grants⟩ :=
  s.policy.run_judge _ s.tenant s.request

lemma on_of_judged {α : Type} {work : Session α} {a : α} (h : d.judged s work = .ok a) :
    work.on (d.tenant s.tenant) = .ok a :=
  on_of_run (d := { d with failing := s.failing }) h

/-- The halves of an outcome are verdicts for the tenant. -/
lemma on_of_outcome {o : Outcome} (h : d.outcome s = .ok o) :
    o.user = s.request.user ∧
      (s.policy.judgeAttributes s.request).on (d.tenant s.tenant) = .ok o.attributes ∧
      (s.policy.judgeGrants s.request).on (d.tenant s.tenant) = .ok o.grants := by
  rw [outcome_eq] at h
  obtain ⟨attributes, hattributes, h⟩ := bind_eq_ok.mp h
  obtain ⟨grants, hgrants, h⟩ := bind_eq_ok.mp h
  obtain rfl := Except.ok.inj h
  exact ⟨rfl, on_of_judged hattributes, on_of_judged hgrants⟩

/-- What an outcome says of grants. -/
lemma outcome_spec {o : Outcome} (h : d.outcome s = .ok o) :
    o.user = s.request.user ∧ o.grants.isSome = s.request.hasGrants ∧
      ∀ done, o.grants = some (.applied done) →
        (d.tenant s.tenant).Applies s.policy s.request done := by
  obtain ⟨huser, -, hgrants⟩ := on_of_outcome h
  exact ⟨huser, Policy.judgeGrants_spec hgrants⟩

lemma newGrants?_of_outcome {o : Outcome} (h : d.outcome s = .ok o) :
    d.newGrants? s = o.newGrants? := by
  unfold newGrants?
  rw [h]

/-- The verdict on a request makes the changes that it makes the host store. -/
lemma applies_of_newGrants? {gs : List Grant} (h : d.newGrants? s = some gs) :
    ∃ done, (d.tenant s.tenant).Applies s.policy s.request done ∧ done.grants = gs := by
  unfold newGrants? at h
  rcases ho : d.outcome s with e | o
  · rw [ho] at h
    cases h
  · rw [ho] at h
    obtain ⟨-, -, happlies⟩ := outcome_spec ho
    obtain ⟨done, hdone, hgs⟩ := Outcome.newGrants?_eq_some h
    exact ⟨done, happlies done hdone, hgs⟩

/-- An accepted request that asks for grants makes the host store grants. -/
lemma newGrants?_of_isOk {o : Outcome} (h : d.outcome s = .ok o) (hok : o.isOk)
    (hasks : s.request.AsksForGrants) : (d.newGrants? s).isSome := by
  obtain ⟨-, hsome, -⟩ := outcome_spec h
  rw [newGrants?_of_outcome h]
  exact Outcome.isSome_newGrants? hok (hsome.trans hasks.hasGrants)

/-- **What a request does to grants**: it makes the host replace those of its user, if it makes it
store any, and leaves all others as they are. -/
theorem grantsOf_step (d : Directory) (s : HostStep) (name : String) (user : Uuid) :
    ((d.step s).tenant name).grantsOf user =
      if name = s.tenant ∧ user = s.request.user then
        (d.newGrants? s).getD ((d.tenant name).grantsOf user)
      else (d.tenant name).grantsOf user := by
  unfold newGrants?
  rcases h : d.outcome s with e | o
  · rw [tenant_step_of_error h]
    exact (ite_self _).symm
  · rw [tenant_step_of_ok h]
    by_cases hname : name = s.tenant
    · rw [if_pos hname, Tenant.grantsOf_store, (outcome_spec h).1]
      simp only [hname, true_and]
    · rw [if_neg hname, if_neg fun h => hname h.1]

/-- Nor does a run of requests. -/
lemma tenant_steps_eq (d : Directory) (ss : List HostStep) (name : String) :
    ∃ values grants,
      (d.steps ss).tenant name = { d.tenant name with values := values, grants := grants } := by
  induction ss generalizing d with
  | nil => exact ⟨_, _, rfl⟩
  | cons s rest ih =>
    obtain ⟨values, grants, hstep⟩ := tenant_step_eq d s name
    obtain ⟨values', grants', hrest⟩ := ih (d.step s)
    refine ⟨values', grants', hrest.trans ?_⟩
    rw [hstep]

lemma roles_steps (d : Directory) (ss : List HostStep) (name : String) :
    ((d.steps ss).tenant name).roles = (d.tenant name).roles := by
  obtain ⟨values, grants, h⟩ := tenant_steps_eq d ss name
  rw [h]

lemma definitions_steps (d : Directory) (ss : List HostStep) (name : String) :
    ((d.steps ss).tenant name).definitions = (d.tenant name).definitions := by
  obtain ⟨values, grants, h⟩ := tenant_steps_eq d ss name
  rw [h]

section Congr

variable {d' : Directory}

/-- What a request comes to follows from what is kept for its tenant. -/
lemma outcome_congr (h : d.tenant s.tenant = d'.tenant s.tenant) : d.outcome s = d'.outcome s := by
  have hanswer : ({ d with failing := s.failing } : Directory).answer s.tenant =
      ({ d' with failing := s.failing } : Directory).answer s.tenant := by
    funext q
    change (if _ then _ else Except.ok ((d.tenant s.tenant).answer q)) = _
    rw [h]
    rfl
  unfold outcome run
  rw [hanswer]

/-- A request does the same wherever the same is kept. -/
lemma tenant_step_congr (h : ∀ name, d.tenant name = d'.tenant name) (s : HostStep)
    (name : String) : (d.step s).tenant name = (d'.step s).tenant name := by
  have hsame := outcome_congr (h s.tenant)
  rcases ho : d'.outcome s with e | o
  · rw [tenant_step_of_error (hsame.trans ho), tenant_step_of_error ho, h]
  · rw [tenant_step_of_ok (hsame.trans ho), tenant_step_of_ok ho, h]

lemma tenant_steps_congr (h : ∀ name, d.tenant name = d'.tenant name) (ss : List HostStep)
    (name : String) : (d.steps ss).tenant name = (d'.steps ss).tenant name := by
  induction ss generalizing d d' with
  | nil => exact h name
  | cons s rest ih => exact ih (tenant_step_congr h s)

end Congr

/-- Requests for the example, all of them by a user who only reads: one who writes is to read as
well, the user wants to write, and a new user is to read. -/
def sampleSteps : List HostStep :=
  [⟨"acme", .standard, [], .associate 5 4 [.add "main" "reader"]⟩,
    ⟨"acme", .standard, [], .associate 4 4 [.add "main" "writer"]⟩,
    ⟨"acme", .standard, [], .create ⟨6, ∅, [⟨"main", "reader"⟩], some 4⟩⟩]

end Directory

end Provisioning
