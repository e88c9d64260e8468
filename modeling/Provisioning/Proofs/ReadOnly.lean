import Provisioning.Proofs.Classification
import Provisioning.Proofs.Storing

/-!
What must not change does not.

Where read-only attributes are enforced, a validation for a user who exists neither gives such an
attribute a value nor clears it, under whatever names it is proposed (`Validation.Spares`). So
requests that create nobody leave all stored values of read-only attributes as they are, and a
request that proposes one is refused as a whole (`Directory.KeepsReadOnly`). The store knows
attributes by identifiers, so all of this needs that identifiers are distinct.
-/

namespace Provisioning

/-! ### One validation -/

/-- A validation changes no attribute of a tenant that must not change. -/
def Validation.Spares (v : Validation) (t : Tenant) : Prop :=
  ∀ a ∈ t.definitions.values, a.readOnly →
    a.id ∉ v.values.map (·.attributeId) ∧ a.id ∉ v.cleared

lemma blocked_existing {a : AttributeDefinition} (h : a.readOnly) (user : Uuid) :
    Blocked a true (.existing user) :=
  ⟨rfl, h, fun hstate => by cases hstate⟩

section Validate

variable {t : Tenant} {p : Policy} {proposed : SortedMap String Json} {user : Uuid}
  {v : Validation}

lemma spares_of_validateAttributes (hids : t.DistinctIds) (hp : p.enforceReadOnly)
    (h : (p.validateAttributes proposed (.existing user)).on t = .ok v) : v.Spares t := by
  obtain ⟨s, hs, rfl⟩ := on_validateAttributes_eq_ok h
  have hcoherent := Schema.coherent_ofDefinitions hs
  intro a ha hreadOnly
  have hblocked : Blocked a p.enforceReadOnly (.existing user) :=
    hp.symm ▸ blocked_existing hreadOnly user
  have hsame : ∀ e ∈ s.definitions, e.id = a.id → e = a := fun e he =>
    hids e ((Schema.mem_definitions_ofDefinitions hs).mp he) a ha
  refine ⟨fun hgiven => ?_, fun hcleared => ?_⟩
  · obtain ⟨_, hvalue, hid⟩ := List.mem_map.mp hgiven
    obtain ⟨e, value, hfinding, rfl⟩ := Finding.mem_acceptedValues.mp hvalue
    obtain ⟨he, hopen, -⟩ := hcoherent.accepted_mem_findings.mp hfinding
    obtain rfl := hsame e he hid
    exact hopen hblocked
  · obtain ⟨e, hid, hfinding⟩ := Finding.mem_clearedIds.mp hcleared
    obtain ⟨he, hopen, -⟩ := hcoherent.cleared_mem_findings.mp hfinding
    obtain rfl := hsame e he hid
    exact hopen hblocked

/-- Whoever proposes an attribute that must not change is told so. -/
lemma reported_of_validateAttributes (hp : p.enforceReadOnly)
    (h : (p.validateAttributes proposed (.existing user)).on t = .ok v) {a : AttributeDefinition}
    (ha : a ∈ t.definitions.values) (hreadOnly : a.readOnly) (hproposed : Proposed proposed a) :
    a.name ∈ v.result.readOnly ∧ v.result.ok = false := by
  obtain ⟨s, hs, rfl⟩ := on_validateAttributes_eq_ok h
  have hfinding : Finding.readOnly a ∈
      (s.check p.enforceReadOnly (.existing user) proposed).findings :=
    (Schema.coherent_ofDefinitions hs).readOnly_mem_findings.mpr
      ⟨(Schema.mem_definitions_ofDefinitions hs).mpr ha, hproposed,
        hp.symm ▸ blocked_existing hreadOnly user⟩
  have hname := Finding.mem_readOnlyNames.mpr ⟨a, rfl, hfinding⟩
  refine ⟨SortedSet.mem_ofList.mpr hname, ?_⟩
  simp only [AttributeCheck.finish, ValidationResult.ofNames, Bool.and_eq_false_iff,
    List.isEmpty_eq_false_iff]
  exact Or.inr (List.ne_nil_of_mem hname)

end Validate

/-! ### One request -/

/-- A request that creates nobody, under a policy that enforces read-only attributes. -/
def HostStep.Guarded (s : HostStep) : Prop :=
  s.policy.enforceReadOnly ∧ ∀ r, s.request ≠ .create r

namespace Directory

variable {d : Directory} {s : HostStep} {o : Outcome} {name : String}

lemma spares_of_outcome (hids : (d.tenant s.tenant).DistinctIds) (hs : s.Guarded)
    (h : d.outcome s = .ok o) {v : Validation} (hv : o.attributes = some v) :
    v.Spares (d.tenant s.tenant) := by
  obtain ⟨-, hattributes, -⟩ := on_of_outcome h
  rw [hv] at hattributes
  obtain ⟨tenant, policy, failing, r | ⟨user, acting, _ | proposed, changes⟩ | _⟩ := s
  · exact absurd rfl (hs.2 r)
  · cases hattributes
  · obtain ⟨v', hv', h⟩ := (Session.on_bind_eq_ok _).mp hattributes
    obtain rfl := Option.some.inj (Except.ok.inj h)
    exact spares_of_validateAttributes hids hs.1 hv'
  · cases hattributes

/-- A request that creates nobody leaves the values of read-only attributes as they are. -/
lemma valueOf_step_of_readOnly (hids : (d.tenant name).DistinctIds)
    (hs : s.tenant = name → s.Guarded) {a : AttributeDefinition}
    (ha : a ∈ (d.tenant name).definitions.values) (hreadOnly : a.readOnly) (user : Uuid) :
    ((d.step s).tenant name).valueOf user a.id = (d.tenant name).valueOf user a.id := by
  rcases ho : d.outcome s with e | o
  · rw [tenant_step_of_error ho]
  · rw [tenant_step_of_ok ho]
    split
    next hname =>
      subst hname
      exact Tenant.valueOf_store_of_unchanged
        (fun v hv => spares_of_outcome hids (hs rfl) ho hv a ha hreadOnly) user
    next => rfl

/-- A request that proposes a read-only attribute for a user who exists is refused as a whole. -/
lemma refused_of_readOnly {r : PatchRequest} {proposed : SortedMap String Json}
    (hp : s.policy.enforceReadOnly) (hr : s.request = .patch r)
    (hproposed : r.attributes = some proposed) {a : AttributeDefinition}
    (ha : a ∈ (d.tenant s.tenant).definitions.values) (hreadOnly : a.readOnly)
    (hentry : Proposed proposed a) (h : d.outcome s = .ok o) :
    (∃ v, o.attributes = some v ∧ a.name ∈ v.result.readOnly) ∧ o.isOk = false ∧
      ∀ name, (d.step s).tenant name = d.tenant name := by
  obtain ⟨-, hattributes, -⟩ := on_of_outcome h
  obtain ⟨tenant, policy, failing, request⟩ := s
  obtain ⟨user, acting, attributes, changes⟩ := r
  obtain rfl : request = _ := hr
  obtain rfl : attributes = _ := hproposed
  obtain ⟨v, hv, hv'⟩ := (Session.on_bind_eq_ok _).mp hattributes
  have hsome := Except.ok.inj hv'
  obtain ⟨hreported, hrejected⟩ := reported_of_validateAttributes hp hv ha hreadOnly hentry
  have hok : o.isOk = false := Outcome.isOk_eq_false_iff.mpr (.inl ⟨v, hsome.symm, hrejected⟩)
  refine ⟨⟨v, hsome.symm, hreported⟩, hok, fun name => ?_⟩
  rw [tenant_step_of_ok h, Tenant.store_of_not_isOk hok]
  exact ite_self _

/-- Whatever it comes to, such a request changes nothing. -/
lemma tenant_step_of_readOnly {r : PatchRequest} {proposed : SortedMap String Json}
    (hp : s.policy.enforceReadOnly) (hr : s.request = .patch r)
    (hproposed : r.attributes = some proposed) {a : AttributeDefinition}
    (ha : a ∈ (d.tenant s.tenant).definitions.values) (hreadOnly : a.readOnly)
    (hentry : Proposed proposed a) (name : String) : (d.step s).tenant name = d.tenant name := by
  rcases ho : d.outcome s with e | o
  · exact tenant_step_of_error ho
  · obtain ⟨-, -, hkept⟩ := refused_of_readOnly hp hr hproposed ha hreadOnly hentry ho
    exact hkept name

/-! ### Runs of requests -/

/-- What requests do to the read-only attributes of a tenant. -/
structure KeepsReadOnly (d : Directory) (name : String) (ss : List HostStep) : Prop where
  /-- At all times every user has the values of the start, and lacks those lacking then. -/
  values (n : ℕ) : ∀ a ∈ (d.tenant name).definitions.values, a.readOnly → ∀ user,
    ((d.steps (ss.take n)).tenant name).valueOf user a.id = (d.tenant name).valueOf user a.id
  /-- A request that proposes such an attribute, under any names and with any values, is refused
  with the name of the attribute, and nothing of it is stored. -/
  refused (earlier later : List HostStep) (s : HostStep) : ss = earlier ++ s :: later →
    s.tenant = name → ∀ r proposed, s.request = .patch r → r.attributes = some proposed →
    ∀ a ∈ (d.tenant name).definitions.values, a.readOnly → Proposed proposed a →
    ∀ o, (d.steps earlier).outcome s = .ok o →
      (∃ v, o.attributes = some v ∧ a.name ∈ v.result.readOnly) ∧ o.isOk = false ∧
        (d.steps (earlier ++ [s])).tenant name = (d.steps earlier).tenant name

lemma distinctIds_step (hids : (d.tenant name).DistinctIds) (s : HostStep) :
    ((d.step s).tenant name).DistinctIds := by
  obtain ⟨values, grants, hstep⟩ := tenant_step_eq d s name
  rw [hstep]
  exact hids

lemma valueOf_steps_of_readOnly (hids : (d.tenant name).DistinctIds) {ss : List HostStep}
    (hss : ∀ s ∈ ss, s.tenant = name → s.Guarded) {a : AttributeDefinition}
    (ha : a ∈ (d.tenant name).definitions.values) (hreadOnly : a.readOnly) (user : Uuid) :
    ((d.steps ss).tenant name).valueOf user a.id = (d.tenant name).valueOf user a.id := by
  induction ss generalizing d with
  | nil => rfl
  | cons s rest ih =>
    obtain ⟨hs, hrest⟩ := List.forall_mem_cons.mp hss
    have ha' : a ∈ ((d.step s).tenant name).definitions.values := by
      rw [← steps_nil (d.step s), ← steps_cons, definitions_steps]
      exact ha
    rw [steps_cons, ih (distinctIds_step hids s) hrest ha',
      valueOf_step_of_readOnly hids hs ha hreadOnly user]

/-- A run goes on as if nobody had made a request that proposes a read-only attribute. -/
lemma tenant_steps_of_readOnly {r : PatchRequest} {proposed : SortedMap String Json}
    (hp : s.policy.enforceReadOnly) (hr : s.request = .patch r)
    (hproposed : r.attributes = some proposed) {a : AttributeDefinition}
    (ha : a ∈ (d.tenant s.tenant).definitions.values) (hreadOnly : a.readOnly)
    (hentry : Proposed proposed a) (earlier later : List HostStep) (name : String) :
    (d.steps (earlier ++ s :: later)).tenant name = (d.steps (earlier ++ later)).tenant name := by
  rw [steps_append, steps_append, steps_cons]
  refine tenant_steps_congr (tenant_step_of_readOnly hp hr hproposed ?_ hreadOnly hentry) later name
  rw [definitions_steps]
  exact ha

/-- **Read-only attributes survive every request that creates nobody**, where definitions have
distinct identifiers and every such request for the tenant comes under a policy that enforces
them. -/
theorem keepsReadOnly (hids : (d.tenant name).DistinctIds) {ss : List HostStep}
    (hss : ∀ s ∈ ss, s.tenant = name → s.Guarded) : d.KeepsReadOnly name ss where
  values n a ha hreadOnly user :=
    valueOf_steps_of_readOnly hids (fun s hs => hss s (List.mem_of_mem_take hs)) ha hreadOnly user
  refused earlier later s hsplit hname r proposed hr hproposed a ha hreadOnly hentry o ho := by
    subst hname
    have hguarded := hss s (hsplit ▸ List.mem_append_right earlier List.mem_cons_self) rfl
    have ha' : a ∈ ((d.steps earlier).tenant s.tenant).definitions.values := by
      rw [definitions_steps]
      exact ha
    obtain ⟨hreported, hok, hkept⟩ :=
      refused_of_readOnly hguarded.1 hr hproposed ha' hreadOnly hentry ho
    rw [steps_append]
    exact ⟨hreported, hok, hkept s.tenant⟩

/-- A tenant where badges must not change, and a user has one. -/
def sampleBadges : Directory :=
  sample.update "acme" fun t =>
    ((t.addDefinition ⟨10, "badge", .integer, false, false, true, none, true⟩).addDefinition
      (.plain 11 "title" .text)).storeRow ⟨5, 10, "7"⟩

/-- A request to change attributes of the user, where badges are protected. -/
def patchBadge (proposed : SortedMap String Json) : HostStep :=
  ⟨"acme", { Policy.standard with enforceReadOnly := true }, [], .patch ⟨5, 5, some proposed, []⟩⟩

/-- Requests for the example: to give the badge back, to have a title, and to have another badge
under one of two spellings. -/
def sampleChanges : List HostStep :=
  [patchBadge (.ofList [("BADGE", .null)]), patchBadge (.ofList [("title", .string "a")]),
    patchBadge (.ofList [("Badge", .null), ("badge", .string "8")])]

/-- The user has the title at the end, and still the badge. -/
theorem keepsReadOnly_sample :
    (sampleBadges.tenant "acme").DistinctIds ∧
      (∀ s ∈ sampleChanges, s.tenant = "acme" → s.Guarded) ∧
      (∀ n, ((sampleBadges.steps (sampleChanges.take n)).tenant "acme").valueOf 5 10 = some "7") ∧
      ((sampleBadges.steps sampleChanges).tenant "acme").valueOf 5 11 = some "a" := by
  have hids : (sampleBadges.tenant "acme").DistinctIds := by decide +kernel
  have hguarded : ∀ proposed, (patchBadge proposed).Guarded := fun _ =>
    ⟨rfl, fun _ hr => by cases hr⟩
  have hchanges : ∀ s ∈ sampleChanges, s.tenant = "acme" → s.Guarded := by
    simp [sampleChanges, hguarded]
  have hbadge : (⟨10, "badge", .integer, false, false, true, none, true⟩ : AttributeDefinition) ∈
      (sampleBadges.tenant "acme").definitions.values := by decide +kernel
  refine ⟨hids, hchanges, fun n => ?_, ?_⟩
  · rw [(keepsReadOnly hids hchanges).values n _ hbadge rfl 5]
    decide +kernel
  · -- by way of the text itself: the kernel is slow to compare two that are still to be lowered
    have hkey : Text.lower "BADGE" = Text.lower "badge" :=
      calc Text.lower "BADGE" = "badge" := by decide +kernel
        _ = Text.lower "badge" := by decide +kernel
    have hfirst := tenant_steps_of_readOnly (s := patchBadge (.ofList [("BADGE", .null)]))
      rfl rfl rfl hbadge rfl ⟨"BADGE", .null, rfl, hkey⟩ []
    have hlast := tenant_steps_of_readOnly
      (s := patchBadge (.ofList [("Badge", .null), ("badge", .string "8")]))
      rfl rfl rfl hbadge rfl ⟨"badge", .string "8", rfl, rfl⟩
      [patchBadge (.ofList [("title", .string "a")])] []
    have htitle : (sampleBadges.steps sampleChanges).tenant "acme" =
        (sampleBadges.step (patchBadge (.ofList [("title", .string "a")]))).tenant "acme" :=
      (hfirst _ "acme").trans (hlast "acme")
    rw [htitle]
    decide +kernel

end Directory

end Provisioning
