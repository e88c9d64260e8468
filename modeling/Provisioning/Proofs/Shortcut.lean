import Provisioning.Operations
import Provisioning.Proofs.Agreement
import Provisioning.Proofs.Memo
import Provisioning.Proofs.Session

/-!
The shortcut for principals who hold exactly the roles in question.

With the shortcut such a principal goes on before any role is looked up by name. Without it the
comparison comes to the same: the roles that are held were looked up by identifier, and what is
remembered by identifier is remembered by name as well (`Memo.Linked`), so there is nothing left to
ask, no name is unknown, and no scope is missing. Hence whatever is decided with the shortcut is
decided without it, and what builds on decisions is the same work.
-/

namespace Provisioning

/-! ### Work that is done with linked memos -/

/-- What is known of the ends may be weakened. -/
lemma Session.Agree.mono {α β : Type} {E : Failure → Failure → Prop} {R S : α → β → Prop}
    {s : Session α} {s' : Session β} (h : s.Agree E R s') (hRS : ∀ a b, R a b → S a b) :
    s.Agree E S s' := by
  induction h with
  | done h => exact .done (hRS _ _ h)
  | fail h => exact .fail h
  | ask _ ih => exact .ask ih

/-- Sessions that ask the same questions and come to the same ends are the same. -/
lemma Session.Agree.eq {α : Type} {s s' : Session α} (h : s.Agree Eq Eq s') : s = s' := by
  induction h with
  | done h => rw [h]
  | fail h => rw [h]
  | @ask q next next' _ ih => exact congrArg (Session.ask q) (funext ih)

namespace Resolving

variable {α β γ δ : Type} {R : α → β → Prop} {S : γ → δ → Prop} {x : Resolving α} {y : Resolving β}

/-- Where the same is known before, every role by its name as well, two works ask the same
questions and come to related ends, and then the same is known, every role by its name. -/
def AgreeLinked (R : α → β → Prop) (x : Resolving α) (y : Resolving β) : Prop :=
  ∀ l, l.roles.Linked →
    (x.run l).Agree Eq (fun p q => R p.1 q.1 ∧ p.2 = q.2 ∧ p.2.roles.Linked) (y.run l)

lemma agreeLinked_pure {a : α} {b : β} (h : R a b) : AgreeLinked R (pure a) (pure b) := fun _ hl =>
  .done ⟨h, rfl, hl⟩

lemma agreeLinked_fail (e : Failure) : AgreeLinked R (fail e) (fail e) := fun _ _ => .fail rfl

lemma agreeLinked_lift (s : Session α) : AgreeLinked Eq (liftM s) (liftM s) := fun _ hl =>
  (Session.agree_refl (fun _ => rfl) s).bind fun _ _ h => .done ⟨h, rfl, hl⟩

lemma AgreeLinked.bind {f : α → Resolving γ} {g : β → Resolving δ} (hx : AgreeLinked R x y)
    (hf : ∀ a b, R a b → AgreeLinked S (f a) (g b)) : AgreeLinked S (x >>= f) (y >>= g) := by
  refine fun l hl => (hx l hl).bind ?_
  rintro ⟨a, l₁⟩ ⟨b, -⟩ ⟨hR, rfl, hl₁⟩
  exact hf a b hR l₁ hl₁

lemma AgreeLinked.ite {p : Prop} [Decidable p] {x' : Resolving α} {y' : Resolving β}
    (hx : p → AgreeLinked R x y) (hy : ¬p → AgreeLinked R x' y') :
    AgreeLinked R (if p then x else x') (if p then y else y') := by
  split
  next hp => exact hx hp
  next hp => exact hy hp

lemma agreeLinked_get : AgreeLinked (fun l l' : Lookups => l = l' ∧ l.roles.Linked) get get :=
  fun _ hl => .done ⟨⟨rfl, hl⟩, rfl, hl⟩

lemma agreeLinked_set {l : Lookups} (h : l.roles.Linked) :
    AgreeLinked Eq (set l : Resolving PUnit) (set l) :=
  fun _ _ => .done ⟨rfl, rfl, h⟩

lemma agreeLinked_modify {f : Lookups → Lookups} (h : ∀ l, l.roles.Linked → (f l).roles.Linked) :
    AgreeLinked Eq (modify f : Resolving PUnit) (modify f) :=
  fun l hl => .done ⟨rfl, rfl, h l hl⟩

lemma AgreeLinked.run' (h : AgreeLinked R x y) {l : Lookups} (hl : l.roles.Linked) :
    (x.run' l).Agree Eq R (y.run' l) :=
  (h l hl).bind fun _ _ hpq => .done hpq.1

/-! ### Loading -/

lemma agreeLinked_loadRolesByName (names : List String) :
    AgreeLinked Eq (loadRolesByName names) (loadRolesByName names) := by
  refine agreeLinked_get.bind ?_
  rintro l _ ⟨rfl, -⟩
  refine (agreeLinked_lift _).bind ?_
  rintro found _ rfl
  exact agreeLinked_modify fun _ hl => hl.recordByName _ found

lemma agreeLinked_loadRolesById (ids : List Uuid) :
    AgreeLinked Eq (loadRolesById ids) (loadRolesById ids) := by
  refine agreeLinked_get.bind ?_
  rintro l _ ⟨rfl, -⟩
  refine (agreeLinked_lift _).bind ?_
  rintro found _ rfl
  exact agreeLinked_modify fun _ hl => hl.recordById _ found

end Resolving

open Resolving

lemma agreeLinked_resolveReferences (changes : List Change) (ids : List Uuid) :
    AgreeLinked Eq (resolveReferences changes ids) (resolveReferences changes ids) := by
  refine agreeLinked_get.bind ?_
  rintro l _ ⟨rfl, hl⟩
  refine (agreeLinked_lift _).bind ?_
  rintro _ _ rfl
  refine (agreeLinked_lift _).bind ?_
  rintro _ _ rfl
  refine (agreeLinked_lift _).bind ?_
  rintro rolesByName _ rfl
  refine (agreeLinked_lift _).bind ?_
  rintro rolesById _ rfl
  exact agreeLinked_set ((hl.recordByName _ rolesByName).recordById _ rolesById)

/-! ### Decisions -/

/-- Two decisions let a principal go on, for whatever reason, or miss the same scopes. -/
inductive Decision.Alike : Decision → Decision → Prop where
  | permitted (r r' : PermitReason) : Alike (.permitted r) (.permitted r')
  | denied (missing : SortedSet String) : Alike (.denied missing) (.denied missing)

namespace Decision

lemma alike_refl : (a : Decision) → a.Alike a
  | permitted r => .permitted r r
  | denied missing => .denied missing

lemma Alike.symm {a b : Decision} (h : a.Alike b) : b.Alike a := by
  cases h with
  | permitted r r' => exact .permitted r' r
  | denied missing => exact .denied missing

lemma Alike.isPermitted_eq {a b : Decision} (h : a.Alike b) : a.isPermitted = b.isPermitted := by
  cases h <;> rfl

lemma alike_permitted_of_isPermitted {a : Decision} (h : a.isPermitted) (r : PermitReason) :
    (permitted r).Alike a := by
  cases a with
  | permitted r' => exact .permitted r r'
  | denied missing => cases h

end Decision

namespace PermissionRule

/-- Nothing is missing where the scopes in question are those of the principal. -/
lemma isPermitted_decide_self (rule : PermissionRule) (scopes : SortedSet String) :
    (rule.decide scopes scopes).isPermitted := by
  have hnone : (scopes.filter fun s => !scopes.contains s).isEmpty := by
    unfold SortedSet.isEmpty SortedSet.filter
    rw [List.isEmpty_iff, List.filter_eq_nil_iff]
    intro s hs
    simpa [SortedSet.contains_iff] using SortedSet.mem_toList.mp hs
  unfold decide
  split
  · rfl
  · dsimp only
    rw [if_pos hnone]
    rfl

section Held

variable {l : Lookups} {held targets : SortedSet String}

/-- Names of roles that all lead to a role. -/
def Leads (l : Lookups) (names : SortedSet String) : Prop :=
  ∀ name ∈ names, (l.roles.getByName? name).isSome

/-- The roles of given identifiers can be looked up by their names. -/
lemma leads_names (hl : l.roles.Linked) (ids : List Uuid) :
    Leads l (.ofList ((ids.filterMap l.roles.get?).map (·.name))) := by
  intro name hn
  obtain ⟨r, hr, rfl⟩ := List.mem_map.mp (SortedSet.mem_ofList.mp hn)
  obtain ⟨id, -, hget⟩ := List.mem_filterMap.mp hr
  exact hl.isSome_getByName? hget

/-- Where all names lead to a role, comparing roles asks nothing and teaches nothing. -/
lemma run_compareScopes (rule : PermissionRule) (principal : Uuid) (hheld : Leads l held)
    (htargets : Leads l targets) :
    (rule.compareScopes principal held targets).run l =
      .done (rule.decide (scopesOf l held.toList) (scopesOf l targets.toList), l) := by
  have hleads : ∀ name ∈ (held.union targets).toList, (l.roles.getByName? name).isSome :=
    fun name hn => (SortedSet.mem_union.mp (SortedSet.mem_toList.mp hn)).elim (hheld name)
      (htargets name)
  have hunseen : l.roles.unseenNames (held.union targets).toList = [] :=
    List.eq_nil_iff_forall_not_mem.mpr fun name hn => by
      obtain ⟨hn, hnot⟩ := Memo.mem_unseenNames.mp hn
      exact hnot (Memo.knowsName_of_isSome (hleads name hn))
  have hunknown : ((held.union targets).toList.filter fun name =>
      (l.roles.getByName? name).isNone) = [] := by
    refine List.filter_eq_nil_iff.mpr fun name hn => ?_
    have hsome := hleads name hn
    rw [Option.isNone_iff_eq_none]
    exact Option.isSome_iff_ne_none.mp hsome
  have hload : (loadRolesByName (held.union targets).toList).run l = .done ((), l) := by
    change (fetchRolesByName (l.roles.unseenNames (held.union targets).toList) >>= _) >>= _ = _
    rw [hunseen]
    rfl
  change (loadRolesByName (held.union targets).toList).run l >>= _ = _
  rw [hload]
  change StateT.run (if ((held.union targets).toList.filter fun name =>
    (l.roles.getByName? name).isNone).isEmpty then _ else _) l = _
  rw [hunknown]
  rfl

end Held

variable {rule rule' : PermissionRule}

lemma agreeLinked_heldRoles (principal : Uuid) (ids : List Uuid) {l : Lookups}
    (hl : l.roles.Linked) :
    ((heldRoles principal ids).run l).Agree Eq
      (fun p q => p = q ∧ p.2.roles.Linked ∧ Leads p.2 p.1) ((heldRoles principal ids).run l) := by
  refine (agreeLinked_loadRolesById ids l hl).bind ?_
  rintro ⟨_, l₁⟩ ⟨_, _⟩ ⟨_, rfl, hl₁⟩
  change Session.Agree _ _ (StateT.run (if _ then _ else _) l₁) (StateT.run (if _ then _ else _) l₁)
  split
  · exact .done ⟨rfl, hl₁, leads_names hl₁ ids⟩
  · exact .fail rfl

lemma agreeLinked_compareScopes (h : rule.systemScope = rule'.systemScope) (principal : Uuid)
    (held targets : SortedSet String) :
    AgreeLinked Decision.Alike (rule.compareScopes principal held targets)
      (rule'.compareScopes principal held targets) := by
  refine (agreeLinked_loadRolesByName _).bind ?_
  rintro _ _ -
  refine agreeLinked_get.bind ?_
  rintro l _ ⟨rfl, -⟩
  refine AgreeLinked.ite (fun _ => agreeLinked_pure ?_) fun _ => agreeLinked_fail _
  unfold decide
  rw [h]
  exact Decision.alike_refl _

/-- With the shortcut or without, the same is asked and learnt, and decisions are alike. -/
lemma agreeLinked_evaluate (h : rule.systemScope = rule'.systemScope) (principal : Uuid)
    (grants : List Grant) (targets : SortedSet String) :
    AgreeLinked Decision.Alike (rule.evaluate principal grants targets)
      (rule'.evaluate principal grants targets) := by
  intro l hl
  refine (agreeLinked_heldRoles principal _ hl).bind ?_
  rintro ⟨held, l₁⟩ _ ⟨rfl, hl₁, hleads⟩
  dsimp only at hl₁ hleads ⊢
  -- the one that takes the shortcut comes to where the other one comes by comparing
  have hself (r : PermissionRule) : (Decision.permitted .selfModification).Alike
      (r.decide (scopesOf l₁ held.toList) (scopesOf l₁ held.toList)) :=
    Decision.alike_permitted_of_isPermitted (r.isPermitted_decide_self _) _
  split
  next hr =>
    obtain rfl : held = targets := by simpa using (Bool.and_eq_true_iff.mp hr).2
    split
    · exact .done ⟨Decision.alike_refl _, rfl, hl₁⟩
    · have hcompare := run_compareScopes rule' principal hleads hleads
      unfold StateT.run at hcompare
      rw [hcompare]
      exact .done ⟨hself rule', rfl, hl₁⟩
  next hr =>
    split
    next hr' =>
      obtain rfl : held = targets := by simpa using (Bool.and_eq_true_iff.mp hr').2
      have hcompare := run_compareScopes rule principal hleads hleads
      unfold StateT.run at hcompare
      rw [hcompare]
      exact .done ⟨(hself rule).symm, rfl, hl₁⟩
    · exact agreeLinked_compareScopes h principal held targets l₁ hl₁

lemma agreeLinked_isPermitted (h : rule.systemScope = rule'.systemScope) (principal : Uuid)
    (targets : SortedSet String) :
    AgreeLinked Decision.Alike (rule.isPermitted principal targets)
      (rule'.isPermitted principal targets) := by
  refine (agreeLinked_lift _).bind ?_
  rintro grants _ rfl
  exact agreeLinked_evaluate h principal grants targets

/-! ### Verdicts -/

lemma agreeLinked_permit (h : rule.systemScope = rule'.systemScope) (acting : Uuid)
    (roles : SortedSet String) (requests : List Change) (changes : GrantChanges) :
    AgreeLinked Eq (rule.permit acting roles requests changes)
      (rule'.permit acting roles requests changes) := by
  refine (agreeLinked_isPermitted h acting roles).bind fun decision decision' halike => ?_
  rw [halike.isPermitted_eq]
  exact AgreeLinked.ite (fun _ => agreeLinked_pure rfl) fun _ => agreeLinked_pure rfl

lemma agreeLinked_judgeBatch (h : rule.systemScope = rule'.systemScope) (l : Lookups)
    (user acting : Uuid) (current : List Grant) (resolved : List ResolvedChange) :
    AgreeLinked Eq (rule.judgeBatch l user acting current resolved)
      (rule'.judgeBatch l user acting current resolved) := by
  unfold judgeBatch
  split
  · exact agreeLinked_fail _
  · exact AgreeLinked.ite (fun _ => agreeLinked_pure rfl) fun _ =>
      AgreeLinked.ite (fun _ => agreeLinked_pure rfl) fun _ =>
      AgreeLinked.ite (fun _ => agreeLinked_pure rfl) fun _ => agreeLinked_permit h acting _ _ _

lemma agreeLinked_reconcile (h : rule.systemScope = rule'.systemScope) (user acting : Uuid)
    (current : List Grant) (changes : List Change) :
    AgreeLinked Eq (rule.reconcile user acting current changes)
      (rule'.reconcile user acting current changes) := by
  refine AgreeLinked.ite (fun _ => agreeLinked_pure rfl) fun _ => ?_
  refine (agreeLinked_resolveReferences changes _).bind fun _ _ _ => agreeLinked_get.bind ?_
  rintro l _ ⟨rfl, -⟩
  exact AgreeLinked.ite (fun _ => agreeLinked_judgeBatch h l user acting _ _) fun _ =>
    agreeLinked_pure rfl

lemma agreeLinked_initial (h : rule.systemScope = rule'.systemScope) (user : Uuid)
    (acting : Option Uuid) (requested : List RequestedGrant) :
    AgreeLinked Eq (rule.initial user acting requested) (rule'.initial user acting requested) := by
  refine (agreeLinked_resolveReferences _ []).bind fun _ _ _ => agreeLinked_get.bind ?_
  rintro l _ ⟨rfl, -⟩
  refine AgreeLinked.ite (fun _ => agreeLinked_pure rfl) fun _ => ?_
  refine AgreeLinked.ite (fun _ => agreeLinked_pure rfl) fun _ => ?_
  cases acting with
  | none => exact agreeLinked_pure rfl
  | some acting => exact agreeLinked_permit h acting _ _ _

end PermissionRule

/-! ### Policies with and without the shortcut -/

namespace Policy

variable (p : Policy) (b : Bool)

/-- The policy with the shortcut, or without it. -/
def withSelfModification : Policy := { p with selfModification := b }

lemma systemScope_withSelfModification :
    (p.withSelfModification b).rule.systemScope = p.rule.systemScope := rfl

lemma withSelfModification_reconcile (user acting : Uuid) (current : List Grant)
    (changes : List Change) :
    (p.withSelfModification b).reconcile user acting current changes =
      p.reconcile user acting current changes := by
  have h : AgreeLinked Eq ((p.withSelfModification b).rule.reconcile user acting current changes)
      (p.rule.reconcile user acting current changes) :=
    PermissionRule.agreeLinked_reconcile (p.systemScope_withSelfModification b) user acting current
      changes
  exact (h.run' (l := ∅) Memo.linked_empty).eq

lemma withSelfModification_associate (user acting : Uuid) (changes : List Change) :
    (p.withSelfModification b).associate user acting changes = p.associate user acting changes :=
  congrArg (Session.query (.grants user) >>= ·) <| funext fun current =>
    p.withSelfModification_reconcile b user acting current changes

lemma withSelfModification_createUser (r : CreateRequest) :
    (p.withSelfModification b).createUser r = p.createUser r := by
  have h : AgreeLinked Eq
      ((p.withSelfModification b).rule.initial r.user r.acting (p.requestedGrants r.grants))
      (p.rule.initial r.user r.acting (p.requestedGrants r.grants)) :=
    PermissionRule.agreeLinked_initial (p.systemScope_withSelfModification b) r.user r.acting _
  have hsame := (h.run' (l := ∅) Memo.linked_empty).eq
  unfold createUser
  rw [← hsame]
  rfl

lemma withSelfModification_patchUser (r : PatchRequest) :
    (p.withSelfModification b).patchUser r = p.patchUser r := by
  unfold patchUser patchGrants
  rw [p.withSelfModification_associate b]
  rfl

lemma agree_withSelfModification_evaluate {l : Lookups} (hl : l.roles.Linked) (principal : Uuid)
    (grants : List Grant) (targets : SortedSet String) :
    (((p.withSelfModification b).rule.evaluate principal grants targets).run l).Agree Eq
      (fun x y => x.1.Alike y.1 ∧ x.2 = y.2)
      ((p.rule.evaluate principal grants targets).run l) :=
  (PermissionRule.agreeLinked_evaluate (p.systemScope_withSelfModification b) principal grants
    targets l hl).mono fun _ _ h => ⟨h.1, h.2.1⟩

end Policy

namespace Directory

/-- Whether there is a shortcut makes no difference for a tenant, but for the reason for which
somebody is let through. -/
structure IgnoresShortcut (d : Directory) (name : String) (p : Policy) (b : Bool) (l : Lookups) :
    Prop where
  create (r : CreateRequest) :
    d.run name ((p.withSelfModification b).createUser r) = d.run name (p.createUser r)
  patch (r : PatchRequest) :
    d.run name ((p.withSelfModification b).patchUser r) = d.run name (p.patchUser r)
  associate (user acting : Uuid) (changes : List Change) :
    d.run name ((p.withSelfModification b).associate user acting changes) =
      d.run name (p.associate user acting changes)
  reconcile (user acting : Uuid) (current : List Grant) (changes : List Change) :
    d.run name ((p.withSelfModification b).reconcile user acting current changes) =
      d.run name (p.reconcile user acting current changes)
  /-- The same is asked. -/
  asked (principal : Uuid) (grants : List Grant) (targets : SortedSet String) :
    (d.run name (((p.withSelfModification b).rule.evaluate principal grants targets).run l)).1 =
      (d.run name ((p.rule.evaluate principal grants targets).run l)).1
  /-- The same is learnt, and decisions are alike. -/
  decided (principal : Uuid) (grants : List Grant) (targets : SortedSet String) :
    SameEnd Eq (fun x y => x.1.Alike y.1 ∧ x.2 = y.2)
      (d.run name (((p.withSelfModification b).rule.evaluate principal grants targets).run l)).2
      (d.run name ((p.rule.evaluate principal grants targets).run l)).2

/-- **The shortcut is only a shortcut**, whatever answers were told before, and whatever is not
answered. -/
theorem ignoresShortcut (d : Directory) (name : String) (p : Policy) (b : Bool) {l : Lookups}
    (hl : l.roles.Recorded) : d.IgnoresShortcut name p b l where
  create r := by rw [p.withSelfModification_createUser b]
  patch r := by rw [p.withSelfModification_patchUser b]
  associate user acting changes := by rw [p.withSelfModification_associate b]
  reconcile user acting current changes := by rw [p.withSelfModification_reconcile b]
  asked principal grants targets :=
    (run_agree (p.agree_withSelfModification_evaluate b hl.linked principal grants targets)
      (fun _ => rfl) d name).1
  decided principal grants targets :=
    (run_agree (p.agree_withSelfModification_evaluate b hl.linked principal grants targets)
      (fun _ => rfl) d name).2

/-- What is known for the example: a role, looked up by its identifier. -/
def sampleLookups : Lookups :=
  ⟨(∅ : Memo Role).recordById [2] [⟨2, "reader", .ofList ["read"]⟩], ∅⟩

/-- Reading is granted by somebody who reads, with the shortcut or without. -/
theorem ignoresShortcut_sample :
    sampleLookups.roles.Recorded ∧
      sample.IgnoresShortcut "acme" .standard false sampleLookups ∧
      (sample.run "acme" ((Policy.standard.rule.evaluate 4 [⟨4, 1, 2⟩]
        (.ofList ["reader"])).run' sampleLookups)).2 = .ok (.permitted .selfModification) ∧
      (sample.run "acme" (((Policy.standard.withSelfModification false).rule.evaluate 4 [⟨4, 1, 2⟩]
        (.ofList ["reader"])).run' sampleLookups)).2 = .ok (.permitted .scopeSuperset) := by
  have hrecorded : sampleLookups.roles.Recorded := .byId .empty _ _
  exact ⟨hrecorded, ignoresShortcut sample "acme" .standard false hrecorded, by decide +kernel,
    by decide +kernel⟩

end Directory

end Provisioning
