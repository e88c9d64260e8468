import Provisioning.Proofs.Resolving
import Provisioning.Role.Permission

/-!
What permission comes down to.

A principal has the scopes of the roles that its stored grants name. `Tenant.Decides` says what is
decided about a principal and roles in question, and `Tenant.MayTouch` when it may touch them: it
has the system scope, or every scope of these roles. The steps of the check are followed here for
any memo that says what the catalogue says; what comes out depends on the catalogue alone
(`Directory.run_isPermitted_eq_iff`), and the shortcut for principals that hold exactly the roles in
question lets nobody through who is not let through anyway (`PermissionRule.on_isPermitted`).
-/

namespace Provisioning

namespace Tenant

variable (t : Tenant)

/-- A user has a scope through a role of a grant. -/
def HasScope (user : Uuid) (scope : String) : Prop :=
  ∃ g ∈ t.grantsOf user, ∃ r, t.roles.get? g.role = some r ∧ scope ∈ r.scopes

/-- A principal may touch the roles with the given names. -/
def MayTouch (rule : PermissionRule) (principal : Uuid) (names : SortedSet String) : Prop :=
  t.HasScope principal rule.systemScope ∨
    ∀ r ∈ t.roles.values, r.name ∈ names → ∀ scope ∈ r.scopes, t.HasScope principal scope

instance (user : Uuid) (scope : String) : Decidable (t.HasScope user scope) :=
  decidable_of_iff (∃ g ∈ t.grantsOf user, ∃ r ∈ t.roles.get? g.role, scope ∈ r.scopes) Iff.rfl

instance (rule : PermissionRule) (principal : Uuid) (names : SortedSet String) :
    Decidable (t.MayTouch rule principal names) :=
  inferInstanceAs (Decidable (_ ∨ ∀ r ∈ t.roles.values, r.name ∈ names → ∀ scope ∈ r.scopes, _))

/-- A user holds a role that does not exist. -/
def Loses (user id : Uuid) : Prop :=
  (∃ g ∈ t.grantsOf user, g.role = id) ∧ t.roles.get? id = none

/-- A user holds a role with the given name. -/
def Holds (user : Uuid) (name : String) : Prop :=
  ∃ g ∈ t.grantsOf user, ∃ r, t.roles.get? g.role = some r ∧ r.name = name

/-- A scope is one of those that the roles with the given names grant. -/
def Grants (names : SortedSet String) (scope : String) : Prop :=
  ∃ r ∈ t.roles.values, r.name ∈ names ∧ scope ∈ r.scopes

section Decisions

variable (rule : PermissionRule) (principal : Uuid) (names : SortedSet String)

/-- The rule has a shortcut, and the roles in question are exactly those that the principal
holds. -/
def Shortcut : Prop := rule.selfModification ∧ ∀ name, name ∈ names ↔ t.Holds principal name

/-- What is decided by scopes. -/
inductive Weighs : Decision → Prop where
  | systemScope (h : t.HasScope principal rule.systemScope) : Weighs (.permitted .systemScope)
  | scopeSuperset (hsystem : ¬t.HasScope principal rule.systemScope)
    (h : ∀ scope, t.Grants names scope → t.HasScope principal scope) :
    Weighs (.permitted .scopeSuperset)
  | denied (missing : SortedSet String) (hsystem : ¬t.HasScope principal rule.systemScope)
    (h : ∀ scope, scope ∈ missing ↔ t.Grants names scope ∧ ¬t.HasScope principal scope)
    (hne : ∃ scope, scope ∈ missing) : Weighs (.denied missing)

/-- What is decided about a principal and the roles with the given names. -/
inductive Decides : Except Failure Decision → Prop where
  /-- The principal holds roles that do not exist, and all of them are reported. -/
  | lost (ids : SortedSet Uuid) (h : ∀ id, id ∈ ids ↔ t.Loses principal id)
    (hne : ∃ id, t.Loses principal id) :
    Decides (.error (.unresolvedRoles principal (ids.toList.map Uuid.toText)))
  | shortcut (hheld : ∀ id, ¬t.Loses principal id) (h : t.Shortcut rule principal names) :
    Decides (.ok (.permitted .selfModification))
  /-- Roles in question do not exist, and all of them are reported. -/
  | unknown (missing : SortedSet String) (hheld : ∀ id, ¬t.Loses principal id)
    (hother : ¬t.Shortcut rule principal names)
    (h : ∀ name, name ∈ missing ↔ name ∈ names ∧ t.roles.named? name = none)
    (hne : ∃ name ∈ names, t.roles.named? name = none) :
    Decides (.error (.unresolvedRoles principal missing.toList))
  | weighed (decision : Decision) (hheld : ∀ id, ¬t.Loses principal id)
    (hother : ¬t.Shortcut rule principal names)
    (hknown : ∀ name ∈ names, t.roles.named? name ≠ none)
    (h : t.Weighs rule principal names decision) : Decides (.ok decision)

end Decisions

/-- The roles of the grants of a user, in order and without repetition. -/
def heldRoleIds (user : Uuid) : List Uuid :=
  (SortedSet.ofList ((t.grantsOf user).map (·.role))).toList

/-- Those of the given roles that do not exist. -/
def lostRoles (ids : List Uuid) : List Uuid := ids.filter fun id => (t.roles.get? id).isNone

/-- The names of the given roles. -/
def roleNames (ids : List Uuid) : SortedSet String :=
  .ofList ((ids.filterMap t.roles.get?).map (·.name))

/-- The scopes of the roles with the given names. -/
def scopesOf (names : SortedSet String) : SortedSet String :=
  .ofList ((names.toList.filterMap t.roles.named?).flatMap fun r => r.scopes.toList)

variable {t}

lemma mem_heldRoleIds {user id : Uuid} :
    id ∈ t.heldRoleIds user ↔ ∃ g ∈ t.grantsOf user, g.role = id := by
  unfold heldRoleIds
  rw [SortedSet.mem_toList, SortedSet.mem_ofList, List.mem_map]

lemma mem_roleNames {ids : List Uuid} {name : String} :
    name ∈ t.roleNames ids ↔ ∃ id ∈ ids, ∃ r, t.roles.get? id = some r ∧ r.name = name := by
  unfold roleNames
  rw [SortedSet.mem_ofList, List.mem_map]
  simp only [List.mem_filterMap]
  constructor
  · rintro ⟨r, ⟨id, hid, hr⟩, hname⟩
    exact ⟨id, hid, r, hr, hname⟩
  · rintro ⟨id, hid, r, hr, hname⟩
    exact ⟨r, ⟨id, hid, hr⟩, hname⟩

lemma mem_roleNames_held {user : Uuid} {name : String} :
    name ∈ t.roleNames (t.heldRoleIds user) ↔ t.Holds user name := by
  rw [mem_roleNames]
  simp only [mem_heldRoleIds]
  constructor
  · rintro ⟨-, ⟨g, hg, rfl⟩, r, hr, hname⟩
    exact ⟨g, hg, r, hr, hname⟩
  · rintro ⟨g, hg, r, hr, hname⟩
    exact ⟨g.role, ⟨g, hg, rfl⟩, r, hr, hname⟩

lemma roleNames_held_eq_iff {user : Uuid} {names : SortedSet String} :
    t.roleNames (t.heldRoleIds user) = names ↔ ∀ name, name ∈ names ↔ t.Holds user name := by
  refine ⟨?_, fun hsame => SortedSet.ext_mem fun name => ?_⟩
  · rintro rfl name
    exact mem_roleNames_held
  · exact mem_roleNames_held.trans (hsame name).symm

/-- The roles that a user holds exist, so only those in question can be unknown. -/
lemma mem_unknown (hd : t.roles.DistinctNames) {user : Uuid} {names : SortedSet String}
    {name : String} :
    (name ∈ ((t.roleNames (t.heldRoleIds user)).union names).filter fun name =>
      (t.roles.named? name).isNone) ↔ name ∈ names ∧ t.roles.named? name = none := by
  rw [SortedSet.mem_filter, SortedSet.mem_union, Option.isNone_iff_eq_none]
  refine and_congr_left fun hnone => or_iff_right fun hheld => ?_
  obtain ⟨g, -, r, hr, rfl⟩ := mem_roleNames_held.mp hheld
  cases (hd.named?_name hr).symm.trans hnone

lemma mem_lostRoles_held {user id : Uuid} :
    id ∈ t.lostRoles (t.heldRoleIds user) ↔ t.Loses user id := by
  unfold lostRoles Loses
  rw [List.mem_filter, mem_heldRoleIds, Option.isNone_iff_eq_none]

lemma mem_scopesOf (hd : t.roles.DistinctNames) {names : SortedSet String} {scope : String} :
    scope ∈ t.scopesOf names ↔ t.Grants names scope := by
  unfold scopesOf
  rw [SortedSet.mem_ofList, List.mem_flatMap]
  simp only [List.mem_filterMap]
  constructor
  · rintro ⟨r, ⟨name, hn, hr⟩, hs⟩
    obtain ⟨hmem, rfl⟩ := Catalogue.named?_spec hr
    exact ⟨r, hmem, hn, hs⟩
  · rintro ⟨r, hmem, hn, hs⟩
    exact ⟨r, ⟨r.name, hn, hd.named?_eq_some.mpr ⟨hmem, rfl⟩⟩, hs⟩

/-- The scopes of the names of the roles held are the scopes that the user has. -/
lemma mem_scopesOf_held (hd : t.roles.DistinctNames) {user : Uuid} {scope : String} :
    scope ∈ t.scopesOf (t.roleNames (t.heldRoleIds user)) ↔ t.HasScope user scope := by
  rw [mem_scopesOf hd]
  constructor
  · rintro ⟨r, hr, hheld, hs⟩
    obtain ⟨g, hg, r', hr', hname⟩ := mem_roleNames_held.mp hheld
    obtain rfl := hd r' (Catalogue.mem_values_of_get? hr').1 r hr hname
    exact ⟨g, hg, r', hr', hs⟩
  · rintro ⟨g, hg, r, hr, hs⟩
    have hheld := mem_roleNames_held.mpr ⟨g, hg, r, hr, rfl⟩
    exact ⟨r, (Catalogue.mem_values_of_get? hr).1, hheld, hs⟩

/-! ### Decisions -/

section Decisions

variable {rule : PermissionRule} {principal : Uuid} {names : SortedSet String}

lemma Weighs.eq {decision decision' : Decision} (h : t.Weighs rule principal names decision)
    (h' : t.Weighs rule principal names decision') : decision = decision' := by
  cases h with
  | systemScope h => cases h' <;> first | rfl | contradiction
  | scopeSuperset hsystem h =>
    cases h' with
    | systemScope => contradiction
    | scopeSuperset => rfl
    | denied missing _ hmissing hne =>
      obtain ⟨scope, hscope⟩ := hne
      obtain ⟨hgrants, hnot⟩ := (hmissing scope).mp hscope
      exact absurd (h scope hgrants) hnot
  | denied missing hsystem hmissing hne =>
    cases h' with
    | systemScope => contradiction
    | scopeSuperset _ h =>
      obtain ⟨scope, hscope⟩ := hne
      obtain ⟨hgrants, hnot⟩ := (hmissing scope).mp hscope
      exact absurd (h scope hgrants) hnot
    | denied missing' _ hmissing' =>
      rw [SortedSet.ext_mem fun scope => (hmissing scope).trans (hmissing' scope).symm]

/-- There is one decision. -/
lemma Decides.eq {result result' : Except Failure Decision}
    (h : t.Decides rule principal names result) (h' : t.Decides rule principal names result') :
    result = result' := by
  cases h with
  | lost ids hids hne =>
    obtain ⟨id, hid⟩ := hne
    cases h' with
    | lost ids' hids' => rw [SortedSet.ext_mem fun id => (hids id).trans (hids' id).symm]
    | shortcut hheld | unknown _ hheld | weighed _ hheld => exact absurd hid (hheld id)
  | shortcut hheld h =>
    cases h' with
    | lost _ _ hne =>
      obtain ⟨id, hid⟩ := hne
      exact absurd hid (hheld id)
    | shortcut => rfl
    | unknown | weighed => contradiction
  | unknown missing hheld hother hmissing hne =>
    cases h' with
    | lost _ _ hne =>
      obtain ⟨id, hid⟩ := hne
      exact absurd hid (hheld id)
    | shortcut => contradiction
    | unknown missing' _ _ hmissing' =>
      rw [SortedSet.ext_mem fun name => (hmissing name).trans (hmissing' name).symm]
    | weighed _ _ _ hknown =>
      obtain ⟨name, hname, hnone⟩ := hne
      exact absurd hnone (hknown name hname)
  | weighed decision hheld hother hknown h =>
    cases h' with
    | lost _ _ hne =>
      obtain ⟨id, hid⟩ := hne
      exact absurd hid (hheld id)
    | shortcut => contradiction
    | unknown _ _ _ _ hne =>
      obtain ⟨name, hname, hnone⟩ := hne
      exact absurd hnone (hknown name hname)
    | weighed decision' _ _ _ h' => rw [h.eq h']

/-- Scopes let through exactly those principals that may touch the roles. -/
lemma Weighs.isPermitted_iff {decision : Decision} (h : t.Weighs rule principal names decision) :
    decision.isPermitted ↔ t.MayTouch rule principal names := by
  cases h with
  | systemScope h => exact iff_of_true rfl (Or.inl h)
  | scopeSuperset _ h =>
    exact iff_of_true rfl (Or.inr fun r hr hname scope hscope => h scope ⟨r, hr, hname, hscope⟩)
  | denied missing hsystem hmissing hne =>
    refine iff_of_false Bool.false_ne_true ?_
    rintro (h | h)
    · exact hsystem h
    · obtain ⟨scope, hscope⟩ := hne
      obtain ⟨⟨r, hr, hname, hs⟩, hnot⟩ := (hmissing scope).mp hscope
      exact hnot (h r hr hname scope hs)

/-- The shortcut lets nobody through who may not touch the roles. -/
lemma Shortcut.mayTouch (hd : t.roles.DistinctNames) (h : t.Shortcut rule principal names) :
    t.MayTouch rule principal names := by
  refine Or.inr fun r hr hname scope hscope => ?_
  have hheld := mem_roleNames_held.mpr ((h.2 r.name).mp hname)
  exact (mem_scopesOf_held hd).mp ((mem_scopesOf hd).mpr ⟨r, hr, hheld, hscope⟩)

end Decisions

end Tenant

namespace PermissionRule

open Resolving

variable {t : Tenant} {l : Lookups} {rule : PermissionRule} {principal : Uuid}

/-- Scopes are compared as is to be decided by them. -/
lemma weighs_decide (hd : t.roles.DistinctNames) (names : SortedSet String) :
    t.Weighs rule principal names
      (rule.decide (t.scopesOf (t.roleNames (t.heldRoleIds principal))) (t.scopesOf names)) := by
  have hscope : ∀ scope, (t.scopesOf (t.roleNames (t.heldRoleIds principal))).contains scope ↔
      t.HasScope principal scope := fun scope =>
    SortedSet.contains_iff.trans (Tenant.mem_scopesOf_held hd)
  have hmissing : ∀ scope, (scope ∈ (t.scopesOf names).filter fun scope =>
      !(t.scopesOf (t.roleNames (t.heldRoleIds principal))).contains scope) ↔
        t.Grants names scope ∧ ¬t.HasScope principal scope := fun scope => by
    rw [SortedSet.mem_filter, Tenant.mem_scopesOf hd, Bool.not_eq_true', ← Bool.not_eq_true, hscope]
  unfold decide
  split
  next hsystem => exact .systemScope ((hscope _).mp hsystem)
  next hsystem =>
    have hsystem := fun h => hsystem ((hscope _).mpr h)
    dsimp only
    split
    next hempty =>
      refine .scopeSuperset hsystem fun scope hgrants => ?_
      by_contra hnot
      have hmem := (hmissing scope).mpr ⟨hgrants, hnot⟩
      rw [← SortedSet.mem_toList, List.isEmpty_iff.mp hempty] at hmem
      cases hmem
    next hempty =>
      have hne := List.exists_mem_of_ne_nil _ fun h => hempty (List.isEmpty_iff.mpr h)
      exact .denied _ hsystem hmissing hne

lemma scopesOf_eq (h : l.roles.Reflects t.roles) (hd : t.roles.DistinctNames)
    {names : SortedSet String} (hk : ∀ name ∈ names, l.roles.KnowsName name) :
    scopesOf l names.toList = t.scopesOf names := by
  unfold scopesOf Tenant.scopesOf
  rw [List.filterMap_congr fun name hn => h.getByName?_eq hd (hk name hn)]

/-! ### The steps of the check -/

lemma on_heldRoles (principal : Uuid) (h : l.roles.Reflects t.roles) (ids : List Uuid) :
    ∃ l', l'.roles.Reflects t.roles ∧ on t (heldRoles principal ids) l =
      if (t.lostRoles ids).isEmpty then .ok (t.roleNames ids, l')
      else .error (.unresolvedRoles principal ((t.lostRoles ids).map Uuid.toText)) := by
  obtain ⟨l', hon, hl', hk⟩ := on_loadRolesById h ids
  have hget : ∀ id ∈ ids, l'.roles.get? id = t.roles.get? id := fun id hi => hl'.get?_eq (hk id hi)
  have hlost : (ids.filter fun id => (l'.roles.get? id).isNone) = t.lostRoles ids :=
    List.filter_congr fun id hi => by rw [hget id hi]
  refine ⟨l', hl', ?_⟩
  unfold heldRoles
  rw [on_bind_of_ok hon, on_get_bind, hlost, List.filterMap_congr hget]
  exact on_ite _ _ _

lemma on_compareScopes (rule : PermissionRule) (principal : Uuid) (h : l.roles.Reflects t.roles)
    (hd : t.roles.DistinctNames) (held targets : SortedSet String) :
    ∃ l', l'.roles.Reflects t.roles ∧ on t (rule.compareScopes principal held targets) l =
      let unknown := (held.union targets).toList.filter fun name => (t.roles.named? name).isNone
      if unknown.isEmpty then .ok (rule.decide (t.scopesOf held) (t.scopesOf targets), l')
      else .error (.unresolvedRoles principal unknown) := by
  obtain ⟨l', hon, hl', hk⟩ := on_loadRolesByName h (held.union targets).toList
  have hk' : ∀ name, name ∈ held ∨ name ∈ targets → l'.roles.KnowsName name := fun name hn =>
    hk name (SortedSet.mem_union.mpr hn)
  have hunknown : ((held.union targets).toList.filter fun name =>
      (l'.roles.getByName? name).isNone) =
      (held.union targets).toList.filter fun name => (t.roles.named? name).isNone :=
    List.filter_congr fun name hn => by rw [hl'.getByName?_eq hd (hk name hn)]
  refine ⟨l', hl', ?_⟩
  unfold compareScopes
  rw [on_bind_of_ok hon, on_get_bind, hunknown,
    scopesOf_eq hl' hd fun name hn => hk' name (Or.inl hn),
    scopesOf_eq hl' hd fun name hn => hk' name (Or.inr hn)]
  exact on_ite _ _ _

/-- A principal with a role that does not exist gets an error, whatever it asks for. -/
lemma on_isPermitted_of_lost (h : l.roles.Reflects t.roles) (targets : SortedSet String)
    (hlost : t.lostRoles (t.heldRoleIds principal) ≠ []) :
    on t (rule.isPermitted principal targets) l =
      .error (.unresolvedRoles principal
        ((t.lostRoles (t.heldRoleIds principal)).map Uuid.toText)) := by
  obtain ⟨l', -, hon⟩ := on_heldRoles principal h (t.heldRoleIds principal)
  rw [if_neg (by simpa using hlost)] at hon
  unfold isPermitted evaluate
  rw [on_bind_of_ok (on_lift (Session.on_query t _))]
  exact on_bind_of_error hon _

/-- What comes out of the check is what is to be decided. -/
lemma decides_isPermitted (rule : PermissionRule) (principal : Uuid)
    (h : l.roles.Reflects t.roles) (hd : t.roles.DistinctNames) (targets : SortedSet String) :
    t.Decides rule principal targets
      ((on t (rule.isPermitted principal targets) l).map Prod.fst) := by
  by_cases hlost : t.lostRoles (t.heldRoleIds principal) = []
  · have hheld : ∀ id, ¬t.Loses principal id := fun id hid =>
      List.not_mem_nil (hlost ▸ Tenant.mem_lostRoles_held.mpr hid)
    obtain ⟨l₁, hl₁, hon⟩ := on_heldRoles principal h (t.heldRoleIds principal)
    rw [if_pos (by simp [hlost])] at hon
    unfold isPermitted evaluate
    rw [on_bind_of_ok (on_lift (Session.on_query t _))]
    change t.Decides _ _ _ ((on t (heldRoles principal (t.heldRoleIds principal) >>= _) l).map _)
    rw [on_bind_of_ok hon]
    have hshortcut : (rule.selfModification && t.roleNames (t.heldRoleIds principal) == targets) ↔
        t.Shortcut rule principal targets := by
      rw [Bool.and_eq_true, beq_iff_eq, Tenant.roleNames_held_eq_iff]
      rfl
    split
    next hself => exact .shortcut hheld (hshortcut.mp hself)
    next hself =>
      have hother := fun hs => hself (hshortcut.mpr hs)
      obtain ⟨l₂, -, hcompare⟩ := rule.on_compareScopes principal hl₁ hd
        (t.roleNames (t.heldRoleIds principal)) targets
      rw [hcompare]
      dsimp only
      split <;> dsimp only [Except.map]
      next hempty =>
        have hnone := List.eq_nil_iff_forall_not_mem.mp (List.isEmpty_iff.mp hempty)
        exact .weighed _ hheld hother
          (fun name hname hno => hnone name ((Tenant.mem_unknown hd).mpr ⟨hname, hno⟩))
          (weighs_decide hd targets)
      next hempty =>
        obtain ⟨name, hname⟩ := List.exists_mem_of_ne_nil _ fun h =>
          hempty (List.isEmpty_iff.mpr h)
        exact .unknown (((t.roleNames (t.heldRoleIds principal)).union targets).filter fun name =>
          (t.roles.named? name).isNone) hheld hother (fun _ => Tenant.mem_unknown hd)
          ⟨name, (Tenant.mem_unknown hd).mp hname⟩
  · rw [on_isPermitted_of_lost h targets hlost]
    obtain ⟨id, hid⟩ := List.exists_mem_of_ne_nil _ hlost
    exact .lost ((SortedSet.ofList ((t.grantsOf principal).map (·.role))).filter fun id =>
      (t.roles.get? id).isNone) (fun id => Tenant.mem_lostRoles_held)
      ⟨id, Tenant.mem_lostRoles_held.mp hid⟩

/-- **Permission**: where the roles held and the roles in question exist, the check lets through
exactly those principals that may touch the roles. -/
lemma on_isPermitted (rule : PermissionRule) (h : l.roles.Reflects t.roles)
    (hd : t.roles.DistinctNames) {targets : SortedSet String}
    (hlost : t.lostRoles (t.heldRoleIds principal) = [])
    (htargets : ∀ name ∈ targets, (t.roles.named? name).isSome) :
    ∃ decision l', on t (rule.isPermitted principal targets) l = .ok (decision, l') ∧
      (decision.isPermitted ↔ t.MayTouch rule principal targets) := by
  have hdecides := rule.decides_isPermitted principal h hd targets
  rcases hon : on t (rule.isPermitted principal targets) l with e | ⟨decision, l'⟩ <;>
    rw [hon] at hdecides
  · cases hdecides with
    | lost _ _ hne =>
      obtain ⟨id, hid⟩ := hne
      exact absurd (hlost ▸ Tenant.mem_lostRoles_held.mpr hid) List.not_mem_nil
    | unknown _ _ _ _ hne =>
      obtain ⟨name, hname, hnone⟩ := hne
      exact absurd hnone (Option.isSome_iff_ne_none.mp (htargets name hname))
  · refine ⟨decision, l', rfl, ?_⟩
    cases hdecides with
    | shortcut _ hshortcut => exact iff_of_true rfl (hshortcut.mayTouch hd)
    | weighed _ _ _ _ hweighs => exact hweighs.isPermitted_iff

end PermissionRule

namespace Directory

/-- **The decision about a principal** depends on its grants and on the roles of the tenant, and not
on what was looked up before. A role that does not exist is an error and never a denial. -/
theorem run_isPermitted_eq_iff {d : Directory} {name : String} {l : Lookups} (hd : d.failing = [])
    (hnames : (d.tenant name).roles.DistinctNames) (hl : l.roles.Told (d.tenant name).roles)
    (rule : PermissionRule) (principal : Uuid) (targets : SortedSet String)
    (result : Except Failure Decision) :
    (d.run name ((rule.isPermitted principal targets).run' l)).2 = result ↔
      (d.tenant name).Decides rule principal targets result := by
  have hdecides := rule.decides_isPermitted principal hl.reflects hnames targets
  rw [run_of_answering hd, Resolving.on_run']
  exact ⟨fun h => h ▸ hdecides, fun h => hdecides.eq h⟩

/-- A reader asks for the role of a writer, and it is known already that nobody has no role. -/
theorem run_isPermitted_eq_iff_sample :
    let roles := (sample.tenant "acme").roles
    let l : Lookups := ⟨(∅ : Memo Role).recordByName ["nobody", "writer"]
      (roles.withNames ["nobody", "writer"]), ∅⟩
    l.roles.Told roles ∧ (sample.tenant "acme").Decides ⟨"admin", true⟩ 4 (.ofList ["writer"])
      (.ok (.denied (.ofList ["write"]))) := by
  intro roles l
  have htold : l.roles.Told roles := .byName .empty _ fun _ => Catalogue.mem_withNames
  exact ⟨htold, (run_isPermitted_eq_iff rfl (by decide +kernel) htold _ _ _ _).mp
    (by decide +kernel)⟩

end Directory

end Provisioning
