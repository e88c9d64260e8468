import Provisioning.Proofs.Grant.Gate
import Provisioning.Proofs.Host

/-!
Nobody gives more than they have.

Whoever adds a grant has every scope of its role, or the unrestricted one. So principals none of
whom has a scope, or the unrestricted one, cannot bring about a grant of a role with that scope by
any sequence of requests, although the grants that they have themselves may change on the way.
-/

namespace Provisioning

/-! ### One request -/

section Applies

variable {t : Tenant} {p : Policy} {q : HostRequest} {acting : Uuid} {done : GrantChanges}

lemma Tenant.MayTouch.role {rule : PermissionRule}
    (h : t.MayTouch rule acting (t.changedRoles done)) {g : Grant} (hg : g ∈ done.added)
    {r : Role} (hr : t.roles.get? g.role = some r) :
    t.HasScope acting rule.systemScope ∨ ∀ scope ∈ r.scopes, t.HasScope acting scope := by
  refine h.imp_right fun h => h r (Catalogue.mem_values_of_get? hr).1 ?_
  refine Tenant.mem_roleNames.mpr ⟨g.role, ?_, r, hr, rfl⟩
  exact List.mem_map_of_mem (List.mem_append_right _ hg)

/-- Whoever gives a role has its scopes, or the unrestricted one. -/
lemma Tenant.Applies.hasScope (h : t.Applies p q done) (hd : t.roles.DistinctNames)
    (hacting : q.acting = some acting) {g : Grant} (hg : g ∈ done.grants)
    (hnew : g ∉ t.grantsOf q.user) {r : Role} (hr : t.roles.get? g.role = some r) :
    t.HasScope acting p.systemScope ∨ ∀ scope ∈ r.scopes, t.HasScope acting scope := by
  cases h with
  | initial _ verdict =>
    rw [hacting] at verdict
    obtain ⟨hmay, hdone⟩ := Tenant.applied_initial hd verdict
    refine hmay.role ?_ hr
    rw [hdone, outcomeOf_initial] at hg ⊢
    exact hg
  | @batch _ changes is_batch verdict =>
    obtain rfl := Option.some.inj ((HostRequest.acting_of_batch? is_batch).symm.trans hacting)
    by_cases hne : changes = []
    · rw [hne] at verdict
      obtain rfl : _ = done := by simpa using Except.ok.inj verdict
      exact absurd (mem_of_mem_distinctGrants hg) hnew
    · obtain ⟨hpasses, hmay, hdone⟩ := Tenant.applied_reconcile hd hne verdict
      refine hmay.role ?_ hr
      subst hdone
      refine (mem_outcomeOf hpasses.fits hg).resolve_left fun hmem => ?_
      exact hnew (mem_of_mem_distinctGrants hmem)

end Applies

/-! ### Runs of requests -/

/-- The role grants one of the scopes. -/
def Role.GrantsOne (r : Role) (scope unrestricted : String) : Prop :=
  scope ∈ r.scopes ∨ unrestricted ∈ r.scopes

/-- Grants of roles with one of the scopes are among those that there were at the start. -/
def Tenant.Confines (start t : Tenant) (scope unrestricted : String) : Prop :=
  ∀ user, ∀ g ∈ t.grantsOf user, ∀ r, t.roles.get? g.role = some r →
    r.GrantsOne scope unrestricted → g ∈ start.grantsOf user

section Confines

variable {start t : Tenant} {scope unrestricted : String}

/-- Who had none of the scopes at the start has none later. -/
lemma Tenant.Confines.not_hasScope (h : start.Confines t scope unrestricted)
    (hroles : t.roles = start.roles) {user : Uuid}
    (hnone : ¬start.HasScope user scope ∧ ¬start.HasScope user unrestricted) :
    ¬t.HasScope user scope ∧ ¬t.HasScope user unrestricted := by
  constructor
  · rintro ⟨g, hg, r, hr, hs⟩
    exact hnone.1 ⟨g, h user g hg r hr (Or.inl hs), r, hroles ▸ hr, hs⟩
  · rintro ⟨g, hg, r, hr, hs⟩
    exact hnone.2 ⟨g, h user g hg r hr (Or.inr hs), r, hroles ▸ hr, hs⟩

end Confines

namespace Directory

variable {start : Tenant} {d : Directory} {name scope unrestricted : String}
  {principals : Uuid → Prop}

/-- A request by a principal without the scopes keeps them confined. -/
lemma confines_step (hroles : (d.tenant name).roles = start.roles)
    (hnames : start.roles.DistinctNames)
    (hnone : ∀ a, principals a → ¬start.HasScope a scope ∧ ¬start.HasScope a unrestricted)
    (s : HostStep) (hpolicy : s.tenant = name → s.policy.systemScope = unrestricted)
    (hacting : s.tenant = name → ∃ a, s.request.acting = some a ∧ principals a)
    (h : start.Confines (d.tenant name) scope unrestricted) :
    start.Confines ((d.step s).tenant name) scope unrestricted := by
  intro user g hg r hr hone
  rw [roles_step] at hr
  rw [grantsOf_step] at hg
  split at hg
  next hstep =>
    obtain ⟨rfl, rfl⟩ := hstep
    rcases hnew : d.newGrants? s with _ | gs
    · rw [hnew] at hg
      exact h _ g hg r hr hone
    obtain ⟨done, happlies, rfl⟩ := applies_of_newGrants? hnew
    rw [hnew] at hg
    obtain ⟨a, ha, hprincipal⟩ := hacting rfl
    by_cases hold : g ∈ (d.tenant s.tenant).grantsOf s.request.user
    · exact h _ g hold r hr hone
    -- the principal would need a scope that none of the principals has
    obtain ⟨hscope, hsystem⟩ := h.not_hasScope hroles (hnone a hprincipal)
    rcases happlies.hasScope (hroles ▸ hnames) ha hg hold hr with hall | hall
    · exact absurd (hpolicy rfl ▸ hall) hsystem
    · rcases hone with hs | hs
      · exact absurd (hall scope hs) hscope
      · exact absurd (hall unrestricted hs) hsystem
  next => exact h user g hg r hr hone

lemma confines_steps (hnames : start.roles.DistinctNames)
    (hnone : ∀ a, principals a → ¬start.HasScope a scope ∧ ¬start.HasScope a unrestricted)
    {ss : List HostStep} (hpolicy : ∀ s ∈ ss, s.tenant = name → s.policy.systemScope = unrestricted)
    (hacting : ∀ s ∈ ss, s.tenant = name → ∃ a, s.request.acting = some a ∧ principals a)
    (hroles : (d.tenant name).roles = start.roles)
    (h : start.Confines (d.tenant name) scope unrestricted) :
    start.Confines ((d.steps ss).tenant name) scope unrestricted := by
  induction ss generalizing d with
  | nil => exact h
  | cons s rest ih =>
    obtain ⟨hpolicy, hpolicies⟩ := List.forall_mem_cons.mp hpolicy
    obtain ⟨hact, hacts⟩ := List.forall_mem_cons.mp hacting
    refine ih hpolicies hacts ((roles_step d s name).trans hroles) ?_
    exact confines_step hroles hnames hnone s hpolicy hact h

/-- **No escalation**: principals none of whom has a scope, or the unrestricted one, bring about no
grant of a role with either, whatever requests they make. Such a grant has been there at all earlier
times, back to the start. -/
theorem confines_of_not_hasScope (d : Directory) (name scope unrestricted : String)
    (principals : Uuid → Prop) (earlier later : List HostStep)
    (hnames : (d.tenant name).roles.DistinctNames)
    (hpolicy : ∀ s ∈ earlier ++ later, s.tenant = name → s.policy.systemScope = unrestricted)
    (hacting : ∀ s ∈ earlier ++ later, s.tenant = name →
      ∃ a, s.request.acting = some a ∧ principals a)
    (hnone : ∀ a, principals a →
      ¬(d.tenant name).HasScope a scope ∧ ¬(d.tenant name).HasScope a unrestricted) :
    ((d.steps earlier).tenant name).Confines ((d.steps (earlier ++ later)).tenant name) scope
      unrestricted := by
  obtain ⟨hpolicy₁, hpolicy₂⟩ := List.forall_mem_append.mp hpolicy
  obtain ⟨hacting₁, hacting₂⟩ := List.forall_mem_append.mp hacting
  have hroles := roles_steps d earlier name
  have hearlier : (d.tenant name).Confines ((d.steps earlier).tenant name) scope unrestricted :=
    confines_steps hnames hnone hpolicy₁ hacting₁ rfl fun _ _ hg _ _ _ => hg
  rw [steps_append]
  refine confines_steps (hroles ▸ hnames) (fun a ha => ?_) hpolicy₂ hacting₂ rfl
    fun _ _ hg _ _ _ => hg
  exact hearlier.not_hasScope hroles (hnone a ha)

/-- Who only reads makes others read as well, and nobody write. -/
theorem confines_sample :
    (sample.tenant "acme").roles.DistinctNames ∧
      (∀ a, a = 4 → ¬(sample.tenant "acme").HasScope a "write" ∧
        ¬(sample.tenant "acme").HasScope a "system") ∧
      ((sample.steps sampleSteps).tenant "acme").grantsOf 5 = [⟨5, 1, 3⟩, ⟨5, 1, 2⟩] ∧
      (sample.tenant "acme").Confines ((sample.steps sampleSteps).tenant "acme") "write"
        "system" := by
  have hnone : ∀ a, a = 4 → ¬(sample.tenant "acme").HasScope a "write" ∧
      ¬(sample.tenant "acme").HasScope a "system" := by
    rintro a rfl
    decide
  refine ⟨by decide, hnone, by decide, ?_⟩
  refine confines_of_not_hasScope sample "acme" "write" "system" (· = 4) [] sampleSteps (by decide)
    (by simp [sampleSteps, Policy.standard]) ?_ hnone
  simp [sampleSteps, HostRequest.acting]

end Directory

end Provisioning
