import Provisioning.Directory.Tenant
import Provisioning.Proofs.Grant.Batch

/-!
Judging a batch against what is held before it.

The judgement of a change is its effect if the change fits, and otherwise a refusal that says what
is wrong with it (`Effect.Realizes`, `Judged`); only a role that is held and does not exist ends it
with an error. So a batch is refused with what is wrong with each of its changes
(`complaints_judgeChanges`), and one whose changes all fit takes away, gives and touches what its
changes do, one by one.
-/

namespace Provisioning

/-! ### The effect of one change -/

/-- An effect is what a change amounts to where entitlements are held. -/
structure Effect.Realizes (effect : Effect) (held : List Entitlement) (r : ResolvedChange) :
    Prop where
  error : effect.error? = none ↔ r.Fits held
  taken : r.Fits held → ∀ e, e ∈ effect.taken ↔ e ∈ held ∧ r.takes e
  given : r.Fits held → effect.given? = r.given?

variable {l : Lookups} {t : Tenant} {user : Uuid} {held : List Entitlement} {r : ResolvedChange}

lemma mem_rolesOn {account id : Uuid} : id ∈ rolesOn held account ↔ ⟨account, id⟩ ∈ held := by
  unfold rolesOn
  rw [SortedSet.mem_toList, SortedSet.mem_ofList, List.mem_map]
  simp only [List.mem_filter, beq_iff_eq]
  constructor
  · rintro ⟨e, ⟨he, rfl⟩, rfl⟩
    exact he
  · exact fun h => ⟨_, ⟨h, rfl⟩, rfl⟩

lemma namedRoles_spec {account : Uuid} {ids : List Uuid} {es : List (Entitlement × String)}
    (h : namedRoles l user account ids = .ok es) {e : Entitlement} {name : String} :
    (e, name) ∈ es ↔
      ∃ id ∈ ids, e = ⟨account, id⟩ ∧ ∃ r, l.roles.get? id = some r ∧ r.name = name := by
  induction ids generalizing es with
  | nil => obtain rfl : [] = es := Except.ok.inj h; simp
  | cons id rest ih =>
    unfold namedRoles at h
    rcases hid : l.roles.get? id with _ | r
    · rw [hid] at h; cases h
    · rw [hid] at h
      rcases hrest : namedRoles l user account rest with err | es'
      · rw [hrest] at h; cases h
      · rw [hrest] at h
        obtain rfl := Except.ok.inj h
        simp only [List.mem_cons, ih hrest, exists_eq_or_imp, hid, Option.some.injEq,
          exists_eq_left', Prod.mk.injEq, eq_comm (a := name)]

lemma map_fst_namedRoles {account : Uuid} {ids : List Uuid} {es : List (Entitlement × String)}
    (h : namedRoles l user account ids = .ok es) : es.map Prod.fst = ids.map (⟨account, ·⟩) := by
  induction ids generalizing es with
  | nil => obtain rfl : [] = es := Except.ok.inj h; rfl
  | cons id rest ih =>
    unfold namedRoles at h
    rcases hid : l.roles.get? id with _ | r
    · rw [hid] at h; cases h
    · rw [hid] at h
      rcases hrest : namedRoles l user account rest with err | es'
      · rw [hrest] at h; cases h
      · rw [hrest] at h
        obtain rfl := Except.ok.inj h
        rw [List.map_cons, List.map_cons, ih hrest]

/-- Roles have names if they exist; one that does not is an error. -/
lemma namedRoles_cases (l : Lookups) (user account : Uuid) (ids : List Uuid) :
    (∃ es, namedRoles l user account ids = .ok es ∧ ∀ id ∈ ids, l.roles.get? id ≠ none) ∨
      ∃ id ∈ ids, l.roles.get? id = none ∧
        namedRoles l user account ids = .error (.unresolvedRoles user [id.toText]) := by
  induction ids with
  | nil => exact Or.inl ⟨[], rfl, by simp⟩
  | cons id rest ih =>
    unfold namedRoles
    rcases hid : l.roles.get? id with _ | r
    · exact Or.inr ⟨id, List.mem_cons_self, hid, rfl⟩
    · rcases ih with ⟨es, hes, hsome⟩ | ⟨id', hmem, hnone, herr⟩
      · refine Or.inl ⟨_, by rw [hes]; rfl, fun id' hid' => ?_⟩
        rcases List.mem_cons.mp hid' with rfl | hid'
        · simp [hid]
        · exact hsome id' hid'
      · exact Or.inr ⟨id', List.mem_cons_of_mem id hmem, hnone, by rw [herr]; rfl⟩

/-- The change takes away all on an account where a role is held that does not exist. -/
def Tenant.MeetsLostRole (t : Tenant) (held : List Entitlement) (r : ResolvedChange) : Prop :=
  r.change.op = .removeAll ∧ r.role = none ∧
    ∃ e ∈ held, e.account = r.account ∧ t.roles.get? e.role = none

instance : Decidable (t.MeetsLostRole held r) :=
  inferInstanceAs (Decidable (_ ∧ _ ∧ ∃ e ∈ held, _ ∧ t.roles.get? e.role = none))

/-! ### Judging one change -/

/-- What a change can be judged to be. -/
inductive Judged (l : Lookups) (user : Uuid) (held : List Entitlement) (r : ResolvedChange) :
    Effect → Prop where
  | refuse {fault : ChangeFault} (violates : r.Violates held fault) :
    Judged l user held r (.refuse (r.change.refuse fault))
  | removeOne {role : Uuid} {name : String} (op : r.change.op = .removeOne)
    (target : r.role = some (role, name)) (mem : ⟨r.account, role⟩ ∈ held) :
    Judged l user held r (.remove [(⟨r.account, role⟩, name)])
  | removeAll {e : Entitlement} {es : List (Entitlement × String)} (op : r.change.op = .removeAll)
    (target : r.role = none) (mem : e ∈ held) (account : e.account = r.account)
    (named : namedRoles l user r.account (rolesOn held r.account) = .ok es) :
    Judged l user held r (.remove es)
  | add {role : Uuid} {name : String} (op : r.change.op = .add)
    (target : r.role = some (role, name)) (fresh : ⟨r.account, role⟩ ∉ held) :
    Judged l user held r (.add ⟨r.account, role⟩ name)

variable {effect : Effect}

lemma judged_of_judgeChange (h : judgeChange l user held r = .ok effect) :
    Judged l user held r effect := by
  unfold judgeChange at h
  split at h
  next role name hop htarget =>
    obtain rfl := Except.ok.inj h
    by_cases hmem : ⟨r.account, role⟩ ∈ held
    · rw [if_pos (List.contains_iff_mem.mpr hmem)]
      exact .removeOne hop htarget hmem
    · rw [if_neg (mt List.contains_iff_mem.mp hmem)]
      exact .refuse (.notHeld hop htarget hmem)
  next hop htarget =>
    split at h
    next hroles =>
      obtain rfl := Except.ok.inj h
      refine .refuse (.nothingOnAccount hop htarget fun e he haccount => ?_)
      have hrole : e.role ∈ rolesOn held r.account := mem_rolesOn.mpr (haccount ▸ he)
      rw [hroles] at hrole
      cases hrole
    next hroles =>
      rcases hes : namedRoles l user r.account (rolesOn held r.account) with err | es
      · rw [hes] at h; cases h
      · rw [hes] at h
        obtain rfl := Except.ok.inj h
        obtain ⟨id, hid⟩ := List.exists_mem_of_ne_nil _ hroles
        exact .removeAll hop htarget (mem_rolesOn.mp hid) rfl hes
  next role name hop htarget =>
    obtain rfl := Except.ok.inj h
    by_cases hmem : ⟨r.account, role⟩ ∈ held
    · rw [if_pos (List.contains_iff_mem.mpr hmem)]
      exact .refuse (.alreadyHeld hop htarget hmem)
    · rw [if_neg (mt List.contains_iff_mem.mp hmem)]
      exact .add hop htarget hmem
  next hop htarget =>
    obtain rfl := Except.ok.inj h
    exact .refuse (.roleRequired (by simp [hop]) htarget)
  next hop htarget =>
    obtain rfl := Except.ok.inj h
    exact .refuse (.roleRequired (by simp [hop]) htarget)
  next hop htarget =>
    obtain rfl := Except.ok.inj h
    exact .refuse (.allRolesRequired hop (by simp [htarget]))

/-- Whatever is known of roles, a judgement is the effect of the change or a refusal. -/
lemma realizes_of_judgeChange (h : judgeChange l user held r = .ok effect) :
    effect.Realizes held r := by
  cases judged_of_judgeChange h with
  | refuse violates =>
    have misfit := violates.not_fits
    exact ⟨by simp [Effect.error?, misfit], fun hf => absurd hf misfit, fun hf => absurd hf misfit⟩
  | removeOne op target mem =>
    refine ⟨iff_of_true rfl (.removeOne op target mem), fun _ e => ?_, fun _ => ?_⟩
    · simp only [Effect.taken, ResolvedChange.takes, op, target, List.map_cons, List.map_nil,
        List.mem_singleton, beq_iff_eq]
      exact ⟨fun he => ⟨he ▸ mem, he⟩, fun he => he.2⟩
    · simp [Effect.given?, ResolvedChange.given?, op]
  | removeAll op target mem account named =>
    refine ⟨iff_of_true rfl (.removeAll op target mem account), fun _ e => ?_, fun _ => ?_⟩
    · simp only [Effect.taken, map_fst_namedRoles named, ResolvedChange.takes, op, target,
        List.mem_map, mem_rolesOn, beq_iff_eq]
      constructor
      · rintro ⟨id, hid, rfl⟩
        exact ⟨hid, rfl⟩
      · rintro ⟨he, haccount⟩
        exact ⟨e.role, haccount ▸ he, by rw [← haccount]⟩
    · simp [Effect.given?, ResolvedChange.given?, op]
  | add op target fresh =>
    refine ⟨iff_of_true rfl (.add op target fresh), fun _ e => ?_, fun _ => ?_⟩
    · simp [Effect.taken, ResolvedChange.takes_of_op op]
    · simp [Effect.given?, ResolvedChange.given?, op, target]

/-- A judgement ends with an error exactly where a role is held that does not exist. -/
lemma judgeChange_of_lost (user : Uuid)
    (hheld : ∀ e ∈ held, l.roles.get? e.role = t.roles.get? e.role) (h : t.MeetsLostRole held r) :
    ∃ e ∈ held, t.roles.get? e.role = none ∧
      judgeChange l user held r = .error (.unresolvedRoles user [e.role.toText]) := by
  obtain ⟨hop, htarget, e, he, haccount, hlost⟩ := h
  have hrole : e.role ∈ rolesOn held r.account := mem_rolesOn.mpr (haccount ▸ he)
  rcases namedRoles_cases l user r.account (rolesOn held r.account) with
    ⟨es, -, hsome⟩ | ⟨id, hid, hnone, herr⟩
  · exact absurd ((hheld e he).trans hlost) (hsome _ hrole)
  · refine ⟨⟨r.account, id⟩, mem_rolesOn.mp hid, ?_, ?_⟩
    · rw [← hheld _ (mem_rolesOn.mp hid)]
      exact hnone
    · unfold judgeChange
      rw [hop, htarget]
      dsimp only
      rcases hroles : rolesOn held r.account with _ | ⟨id', ids⟩
      · rw [hroles] at hid; cases hid
      · dsimp only
        rw [← hroles, herr]
        rfl

lemma exists_judgeChange (user : Uuid)
    (hheld : ∀ e ∈ held, l.roles.get? e.role = t.roles.get? e.role) (h : ¬t.MeetsLostRole held r) :
    ∃ effect, judgeChange l user held r = .ok effect := by
  unfold judgeChange
  split
  next => exact ⟨_, rfl⟩
  next hop htarget =>
    split
    next => exact ⟨_, rfl⟩
    next =>
      rcases namedRoles_cases l user r.account (rolesOn held r.account) with
        ⟨es, hes, -⟩ | ⟨id, hid, hnone, -⟩
      · exact ⟨_, by rw [hes]; rfl⟩
      · have hmem := mem_rolesOn.mp hid
        exact absurd ⟨hop, htarget, _, hmem, rfl, (hheld _ hmem).symm.trans hnone⟩ h
  all_goals exact ⟨_, rfl⟩

/-- Whatever is known of roles, only one that is held and not known ends a judgement with an
error. -/
lemma judgeChange_error {e : Failure} (h : judgeChange l user held r = .error e) :
    ∃ e' ∈ held, l.roles.get? e'.role = none ∧ e = .unresolvedRoles user [e'.role.toText] := by
  unfold judgeChange at h
  split at h
  case h_2 =>
    split at h
    next => cases h
    next =>
      rcases namedRoles_cases l user r.account (rolesOn held r.account) with
        ⟨es, hes, -⟩ | ⟨id, hid, hnone, herr⟩
      · rw [hes] at h
        cases h
      · rw [herr] at h
        exact ⟨_, mem_rolesOn.mp hid, hnone, (Except.error.inj h).symm⟩
  all_goals cases h

/-- The names that a judgement reports are those of the roles that the change touches. -/
lemma mem_roleNames_of_judgeChange
    (hheld : ∀ e ∈ held, l.roles.get? e.role = t.roles.get? e.role)
    (hrole : ∀ id name, r.role = some (id, name) →
      ∃ role, t.roles.get? id = some role ∧ role.name = name)
    (h : judgeChange l user held r = .ok effect) (hfits : r.Fits held) {name : String} :
    name ∈ effect.roleNames ↔
      ∃ e, r.Touches held e ∧ ∃ role, t.roles.get? e.role = some role ∧ role.name = name := by
  unfold ResolvedChange.Touches
  cases judged_of_judgeChange h with
  | refuse violates => exact absurd hfits violates.not_fits
  | removeOne op target mem =>
    obtain ⟨role, hget, hname⟩ := hrole _ _ target
    simp only [Effect.roleNames, List.map_cons, List.map_nil, List.mem_singleton,
      ResolvedChange.takes, ResolvedChange.given?, op, target, beq_iff_eq]
    constructor
    · rintro rfl
      exact ⟨_, Or.inl ⟨mem, rfl⟩, role, hget, hname⟩
    · rintro ⟨e, ⟨-, rfl⟩ | hgiven, role', hget', rfl⟩
      · rw [← hname, Option.some.inj (hget.symm.trans hget')]
      · cases hgiven
  | removeAll op target mem account named =>
    simp only [Effect.roleNames, List.mem_map, Prod.exists, exists_eq_right, namedRoles_spec named,
      mem_rolesOn, ResolvedChange.takes, ResolvedChange.given?, op, target, beq_iff_eq]
    constructor
    · rintro ⟨e, id, hid, rfl, role, hget, hname⟩
      exact ⟨_, Or.inl ⟨hid, rfl⟩, role, (hheld _ hid).symm.trans hget, hname⟩
    · rintro ⟨e, ⟨he, haccount⟩ | hgiven, role, hget, hname⟩
      · refine ⟨e, e.role, haccount ▸ he, by rw [← haccount], role, ?_, hname⟩
        exact (hheld e he).trans hget
      · cases hgiven
  | add op target fresh =>
    obtain ⟨role, hget, hname⟩ := hrole _ _ target
    simp only [Effect.roleNames, List.mem_singleton, ResolvedChange.takes,
      ResolvedChange.given?, op, target, Option.some.injEq]
    constructor
    · rintro rfl
      exact ⟨_, Or.inr rfl, role, hget, hname⟩
    · rintro ⟨e, ⟨-, htakes⟩ | rfl, role', hget', rfl⟩
      · cases htakes
      · rw [← hname, Option.some.inj (hget.symm.trans hget')]

/-! ### Judging a batch -/

section Batch

variable {batch : List ResolvedChange} {effects : List Effect}

lemma judgeChanges_eq_ok : judgeChanges l user held batch = .ok effects ↔
    List.Forall₂ (fun r effect => judgeChange l user held r = .ok effect) batch effects := by
  induction batch generalizing effects with
  | nil =>
    rw [List.forall₂_nil_left_iff]
    exact ⟨fun h => (Except.ok.inj h).symm, fun h => h ▸ rfl⟩
  | cons r rest ih =>
    unfold judgeChanges
    rcases hr : judgeChange l user held r with err | effect
    · refine iff_of_false (fun h => by cases h) fun h => ?_
      rcases h with _ | ⟨hr', -⟩
      rw [hr] at hr'
      cases hr'
    · rcases hrest : judgeChanges l user held rest with err | es
      · refine iff_of_false (fun h => by cases h) fun h => ?_
        rcases h with _ | ⟨-, htail⟩
        rw [ih.mpr htail] at hrest
        cases hrest
      · constructor
        · intro h
          obtain rfl := Except.ok.inj h
          exact .cons hr (ih.mp hrest)
        · rintro (_ | ⟨hr', htail⟩)
          rw [hr] at hr'
          rw [ih.mpr htail] at hrest
          cases hr'
          cases hrest
          rfl

lemma judgeChanges_error {e : Failure} (h : judgeChanges l user held batch = .error e) :
    ∃ e' ∈ held, l.roles.get? e'.role = none ∧ e = .unresolvedRoles user [e'.role.toText] := by
  induction batch with
  | nil => cases h
  | cons r rest ih =>
    unfold judgeChanges at h
    rcases hr : judgeChange l user held r with err | effect
    · rw [hr] at h
      obtain rfl := Except.error.inj h
      exact judgeChange_error hr
    · rw [hr] at h
      rcases hrest : judgeChanges l user held rest with err | effects
      · rw [hrest] at h
        obtain rfl := Except.error.inj h
        exact ih hrest
      · rw [hrest] at h
        cases h

lemma judgeChanges_of_lost (user : Uuid)
    (hheld : ∀ e ∈ held, l.roles.get? e.role = t.roles.get? e.role)
    (h : ∃ r ∈ batch, t.MeetsLostRole held r) : ∃ e ∈ held, t.roles.get? e.role = none ∧
      judgeChanges l user held batch = .error (.unresolvedRoles user [e.role.toText]) := by
  induction batch with
  | nil => obtain ⟨r, hr, -⟩ := h; cases hr
  | cons r rest ih =>
    unfold judgeChanges
    by_cases hr : t.MeetsLostRole held r
    · obtain ⟨e, he, hnone, herr⟩ := judgeChange_of_lost user hheld hr
      exact ⟨e, he, hnone, by rw [herr]⟩
    · obtain ⟨effect, heffect⟩ := exists_judgeChange user hheld hr
      obtain ⟨r', hr', hlost⟩ := h
      rcases List.mem_cons.mp hr' with rfl | hr'
      · exact absurd hlost hr
      · obtain ⟨e, he, hnone, herr⟩ := ih ⟨r', hr', hlost⟩
        exact ⟨e, he, hnone, by rw [heffect, herr]; rfl⟩

/-- A batch is judged if each of its changes is. -/
lemma exists_judgeChanges_iff : (∃ effects, judgeChanges l user held batch = .ok effects) ↔
    ∀ r ∈ batch, ∃ effect, judgeChange l user held r = .ok effect := by
  constructor
  · rintro ⟨effects, h⟩
    rw [judgeChanges_eq_ok] at h
    induction h with
    | nil => simp
    | cons hr _ ih => exact List.forall_mem_cons.mpr ⟨⟨_, hr⟩, ih⟩
  · intro h
    induction batch with
    | nil => exact ⟨[], rfl⟩
    | cons r rest ih =>
      obtain ⟨⟨effect, hr⟩, hrest⟩ := List.forall_mem_cons.mp h
      obtain ⟨effects, heffects⟩ := ih hrest
      exact ⟨effect :: effects,
        judgeChanges_eq_ok.mpr (.cons hr (judgeChanges_eq_ok.mp heffects))⟩

lemma exists_judgeChanges (user : Uuid)
    (hheld : ∀ e ∈ held, l.roles.get? e.role = t.roles.get? e.role)
    (h : ∀ r ∈ batch, ¬t.MeetsLostRole held r) :
    ∃ effects, judgeChanges l user held batch = .ok effects :=
  exists_judgeChanges_iff.mpr fun r hr => exists_judgeChange user hheld (h r hr)

/-- The effects of a batch are those of its changes, one by one. -/
lemma mem_effects (h : judgeChanges l user held batch = .ok effects) {effect : Effect} :
    effect ∈ effects ↔ ∃ r ∈ batch, judgeChange l user held r = .ok effect := by
  rw [judgeChanges_eq_ok] at h
  induction h with
  | nil => simp
  | cons hr _ ih =>
    rw [List.mem_cons, ih, List.exists_mem_cons_iff, hr, Except.ok.injEq, eq_comm]

/-- Each change that does not fit is refused with what is wrong with it, and no other is. -/
lemma complaints_judgeChanges (h : judgeChanges l user held batch = .ok effects) :
    ResolvedChange.Complaints held batch (effects.filterMap Effect.error?) := by
  rw [judgeChanges_eq_ok] at h
  unfold ResolvedChange.Complaints
  induction h with
  | nil => exact .nil
  | @cons r effect rest effects hr _ ih =>
    have hrealizes := realizes_of_judgeChange hr
    cases judged_of_judgeChange hr with
    | @refuse fault violates =>
      rw [List.filter_cons_of_pos (by simpa using violates.not_fits)]
      exact ih.cons ⟨fault, violates, rfl⟩
    | _ =>
      rw [List.filter_cons_of_neg (by simpa using hrealizes.error.mp rfl)]
      exact ih

/-- No change is refused exactly if all of them fit. -/
lemma errors_eq_nil (h : judgeChanges l user held batch = .ok effects) :
    effects.filterMap Effect.error? = [] ↔ ∀ r ∈ batch, r.Fits held := by
  rw [← List.length_eq_zero_iff, ← (complaints_judgeChanges h).length_eq, List.length_eq_zero_iff,
    List.filter_eq_nil_iff]
  simp

lemma mem_taken (h : judgeChanges l user held batch = .ok effects)
    (hfits : ∀ r ∈ batch, r.Fits held) {e : Entitlement} :
    e ∈ effects.flatMap Effect.taken ↔ e ∈ held ∧ takesAny batch e := by
  rw [judgeChanges_eq_ok] at h
  unfold takesAny
  induction h with
  | nil => simp
  | cons hr _ ih =>
    obtain ⟨hfit, hrest⟩ := List.forall_mem_cons.mp hfits
    rw [List.flatMap_cons, List.mem_append, (realizes_of_judgeChange hr).taken hfit, ih hrest,
      List.any_cons, Bool.or_eq_true, ← and_or_left]

lemma filterMap_given? (h : judgeChanges l user held batch = .ok effects)
    (hfits : ∀ r ∈ batch, r.Fits held) :
    effects.filterMap Effect.given? = batch.filterMap (·.given?) := by
  rw [judgeChanges_eq_ok] at h
  induction h with
  | nil => rfl
  | cons hr _ ih =>
    obtain ⟨hfit, hrest⟩ := List.forall_mem_cons.mp hfits
    rw [List.filterMap_cons, List.filterMap_cons, (realizes_of_judgeChange hr).given hfit, ih hrest]

/-- **A batch is judged at once and does what carrying it out would do.** -/
lemma applyEffects_eq {current : List Grant}
    (h : judgeChanges l user (current.map Grant.entitlement) (byPriority batch) = .ok effects)
    (hfits : ∀ r ∈ batch, r.Fits (current.map Grant.entitlement)) :
    applyEffects user current effects = outcomeOf user current (byPriority batch) := by
  have hfits' : ∀ r ∈ byPriority batch, r.Fits (current.map Grant.entitlement) := fun r hr =>
    hfits r (mem_byPriority.mp hr)
  have htaken : ∀ g ∈ current, (effects.flatMap Effect.taken).contains g.entitlement =
      takesAny batch g.entitlement := fun g hg => by
    rw [Bool.eq_iff_iff, List.contains_iff_mem, mem_taken h hfits', takesAny_byPriority]
    exact and_iff_right (List.mem_map_of_mem hg)
  unfold applyEffects outcomeOf
  rw [carryOut_byPriority hfits]
  unfold additions
  simp only [filterMap_given? h hfits', takesAny_byPriority]
  rw [List.filter_congr htaken, List.filter_congr fun g hg => congrArg _ (htaken g hg)]

/-- The names of the roles of the entitlements that a batch takes from those held, or gives. -/
def Tenant.touchedRoles (t : Tenant) (held : List Entitlement) (batch : List ResolvedChange) :
    SortedSet String :=
  let touched := held.filter (takesAny batch) ++ batch.filterMap (·.given?)
  .ofList ((touched.filterMap fun e => t.roles.get? e.role).map (·.name))

lemma Tenant.mem_touchedRoles {name : String} : name ∈ t.touchedRoles held batch ↔
    ∃ r ∈ batch, ∃ e, r.Touches held e ∧
      ∃ role, t.roles.get? e.role = some role ∧ role.name = name := by
  unfold touchedRoles ResolvedChange.Touches takesAny
  rw [SortedSet.mem_ofList, List.mem_map]
  simp only [List.mem_filterMap, List.mem_append, List.mem_filter, List.any_eq_true]
  constructor
  · rintro ⟨role, ⟨e, ⟨he, r, hr, htakes⟩ | ⟨r, hr, hgiven⟩, hget⟩, hname⟩
    · exact ⟨r, hr, e, Or.inl ⟨he, htakes⟩, role, hget, hname⟩
    · exact ⟨r, hr, e, Or.inr hgiven, role, hget, hname⟩
  · rintro ⟨r, hr, e, ⟨he, htakes⟩ | hgiven, role, hget, hname⟩
    · exact ⟨role, ⟨e, Or.inl ⟨he, r, hr, htakes⟩, hget⟩, hname⟩
    · exact ⟨role, ⟨e, Or.inr ⟨r, hr, hgiven⟩, hget⟩, hname⟩

/-- The names that the judgements report are those of the roles that the batch touches. -/
lemma ofList_roleNames (hheld : ∀ e ∈ held, l.roles.get? e.role = t.roles.get? e.role)
    (hrole : ∀ r ∈ batch, ∀ id name, r.role = some (id, name) →
      ∃ role, t.roles.get? id = some role ∧ role.name = name)
    (h : judgeChanges l user held batch = .ok effects) (hfits : ∀ r ∈ batch, r.Fits held) :
    SortedSet.ofList (effects.flatMap Effect.roleNames) = t.touchedRoles held batch := by
  refine SortedSet.ext_mem fun name => ?_
  rw [SortedSet.mem_ofList, Tenant.mem_touchedRoles]
  rw [judgeChanges_eq_ok] at h
  induction h with
  | nil => simp
  | cons hr _ ih =>
    obtain ⟨hrole', hrest⟩ := List.forall_mem_cons.mp hrole
    obtain ⟨hfit, hfits'⟩ := List.forall_mem_cons.mp hfits
    rw [List.flatMap_cons, List.mem_append, mem_roleNames_of_judgeChange hheld hrole' hr hfit,
      ih hrest hfits']
    simp only [List.mem_cons, exists_eq_or_imp]

end Batch

end Provisioning
