import Mathlib.Data.List.TakeWhile
import Provisioning.Operations
import Provisioning.Proofs.Grant.Judge
import Provisioning.Proofs.Questions

/-!
Questions that are not answered.

Every operation asks its questions in a fixed order and never makes up an answer
(`Operation.orderly`). So where some sorts of questions are not answered, an operation either comes
to what it comes to anyway, or it fails and names the first of its questions that was not answered
(`Directory.FailsClosed`).
-/

namespace Provisioning

open Session

/-! ### Work that looks things up -/

namespace Resolving

variable {α β : Type} {order order' : List Call}

/-- Whatever is known before, the questions come in the given order. -/
def Orderly (order : List Call) (x : Resolving α) : Prop := ∀ l, (x.run l).Orderly order

lemma orderly_pure (a : α) : Orderly order (pure a) := fun l => .done order (a, l)

lemma orderly_get : Orderly [] (get : Resolving Lookups) := fun l => .done [] (l, l)

lemma orderly_set (l : Lookups) : Orderly [] (set l : Resolving PUnit) := fun _ => .done [] ((), l)

lemma orderly_modify (f : Lookups → Lookups) : Orderly [] (modify f : Resolving PUnit) := fun l =>
  .done [] ((), f l)

lemma orderly_fail {e : Failure} (h : e.isUnanswered = false) :
    Orderly order (fail e : Resolving α) := fun _ => .fail order e h

lemma orderly_lift {s : Session α} (h : s.Orderly order) :
    Orderly order (liftM s : Resolving α) := fun l => h.map fun a => (a, l)

lemma Orderly.bind {x : Resolving α} {f : α → Resolving β} (hx : Orderly order x)
    (hf : ∀ a, Orderly order' (f a)) : Orderly (order ++ order') (x >>= f) := fun l =>
  (hx l).bind fun p => hf p.1 p.2

lemma Orderly.finish {x : Resolving α} {f : α → Resolving β} (hx : Orderly order x)
    (hf : ∀ a, Orderly [] (f a)) : Orderly order (x >>= f) := fun l =>
  (hx l).finish fun p => hf p.1 p.2

lemma Orderly.ite {p : Prop} [Decidable p] {x y : Resolving α} (hx : Orderly order x)
    (hy : Orderly order y) : Orderly order (if p then x else y) := by
  split
  · exact hx
  · exact hy

lemma Orderly.run' {x : Resolving α} (h : Orderly order x) (l : Lookups) :
    (x.run' l).Orderly order := (h l).map Prod.fst

/-- The order of the questions about what a batch names. -/
def batchOrder : List Call := [.accountsById, .accountsByName, .rolesByName, .rolesById]

/-- The order of the questions about the permission of a principal. -/
def permissionOrder : List Call := [.grants, .rolesById, .rolesByName]

lemma orderly_resolveReferences (changes : List Change) (ids : List Uuid) :
    Orderly batchOrder (resolveReferences changes ids) :=
  orderly_get.bind fun _ =>
    (orderly_lift (orderly_ite_query _ (.accountsById _) _)).bind fun _ =>
      (orderly_lift (orderly_ite_query _ (.accountsByName _) _)).bind fun _ =>
        (orderly_lift (orderly_ite_query _ (.rolesByName _) _)).bind fun _ =>
          (orderly_lift (orderly_ite_query _ (.rolesById _) _)).bind fun _ => orderly_set _

lemma orderly_loadRolesById (ids : List Uuid) : Orderly [.rolesById] (loadRolesById ids) :=
  orderly_get.bind fun _ =>
    (orderly_lift (orderly_ite_query _ (.rolesById _) _)).bind fun _ => orderly_modify _

lemma orderly_loadRolesByName (names : List String) :
    Orderly [.rolesByName] (loadRolesByName names) :=
  orderly_get.bind fun _ =>
    (orderly_lift (orderly_ite_query _ (.rolesByName _) _)).bind fun _ => orderly_modify _

end Resolving

namespace PermissionRule

open Resolving

variable (rule : PermissionRule)

lemma orderly_heldRoles (principal : Uuid) (ids : List Uuid) :
    Resolving.Orderly [.rolesById] (heldRoles principal ids) :=
  (orderly_loadRolesById ids).bind fun _ => orderly_get.bind fun _ =>
    (orderly_pure _).ite (orderly_fail rfl)

lemma orderly_compareScopes (principal : Uuid) (held targets : SortedSet String) :
    Resolving.Orderly [.rolesByName] (rule.compareScopes principal held targets) :=
  (orderly_loadRolesByName _).bind fun _ => orderly_get.bind fun _ =>
    (orderly_pure _).ite (orderly_fail rfl)

lemma orderly_isPermitted (principal : Uuid) (targets : SortedSet String) :
    Resolving.Orderly permissionOrder (rule.isPermitted principal targets) :=
  (orderly_lift (orderly_query (.grants principal))).bind fun _ =>
    (orderly_heldRoles principal _).bind fun _ =>
      (orderly_pure _).ite (rule.orderly_compareScopes principal _ targets)

lemma orderly_permit (acting : Uuid) (roles : SortedSet String) (requests : List Change)
    (changes : GrantChanges) :
    Resolving.Orderly permissionOrder (rule.permit acting roles requests changes) :=
  (rule.orderly_isPermitted acting roles).finish fun _ => (orderly_pure _).ite (orderly_pure _)

lemma orderly_judgeBatch (l : Lookups) (user acting : Uuid) (current : List Grant)
    (resolved : List ResolvedChange) :
    Resolving.Orderly permissionOrder (rule.judgeBatch l user acting current resolved) := by
  unfold judgeBatch
  split
  next e he =>
    obtain ⟨_, -, -, rfl⟩ := judgeChanges_error he
    exact orderly_fail rfl
  next =>
    exact (orderly_pure _).ite <| (orderly_pure _).ite <| (orderly_pure _).ite <|
      rule.orderly_permit acting _ _ _

lemma orderly_reconcile (user acting : Uuid) (current : List Grant) (changes : List Change) :
    Resolving.Orderly (batchOrder ++ permissionOrder)
      (rule.reconcile user acting current changes) :=
  (orderly_pure _).ite <|
    (orderly_resolveReferences changes _).bind fun _ => orderly_get.bind fun _ =>
      (rule.orderly_judgeBatch _ user acting _ _).ite (orderly_pure _)

lemma orderly_initial (user : Uuid) (acting : Option Uuid) (requested : List RequestedGrant) :
    Resolving.Orderly (batchOrder ++ permissionOrder) (rule.initial user acting requested) := by
  refine (orderly_resolveReferences _ []).bind fun _ => orderly_get.bind fun l => ?_
  refine (orderly_pure _).ite ((orderly_pure _).ite ?_)
  cases acting with
  | none => exact orderly_pure _
  | some acting => exact rule.orderly_permit acting _ _ _

end PermissionRule

/-! ### Operations -/

lemma orderly_invalidSchema {α : Type} (r : Except SchemaError α) :
    (ofExcept (r.mapError .invalidSchema)).Orderly [] :=
  orderly_ofExcept fun e he => by
    cases r with
    | ok a => cases he
    | error err =>
      obtain rfl := Except.error.inj he
      rfl

lemma orderly_loadSchema : loadSchema.Orderly [.definitions] :=
  (orderly_query .definitions).bind fun _ => orderly_invalidSchema _

lemma orderly_defineAttribute (d : AttributeDefinition) :
    (defineAttribute d).Orderly [.definitions] :=
  orderly_loadSchema.bind fun _ => (orderly_invalidSchema _).bind fun _ => .done [] _

lemma orderly_retireAttribute (name : String) : (retireAttribute name).Orderly [.definitions] :=
  orderly_loadSchema.bind fun _ => (orderly_invalidSchema _).bind fun _ => .done [] _

namespace Policy

variable (p : Policy)

/-- The order of the questions about attributes. -/
def attributeOrder : List Call := [.definitions, .taken]

/-- The order of the questions about a batch. -/
def reconcileOrder : List Call := Resolving.batchOrder ++ Resolving.permissionOrder

/-- The order of the questions about a batch and the grants that a user has. -/
def associateOrder : List Call := .grants :: reconcileOrder

lemma orderly_validateAttributes (proposed : SortedMap String Json) (state : RecordState) :
    (p.validateAttributes proposed state).Orderly attributeOrder :=
  orderly_loadSchema.bind fun _ =>
    (orderly_ite_query _ (.taken _ _) _).bind fun _ => .done [] _

lemma orderly_reconcile (user acting : Uuid) (current : List Grant) (changes : List Change) :
    (p.reconcile user acting current changes).Orderly reconcileOrder :=
  (p.rule.orderly_reconcile user acting current changes).run' ∅

lemma orderly_associate (user acting : Uuid) (changes : List Change) :
    (p.associate user acting changes).Orderly associateOrder :=
  (orderly_query (.grants user)).bind fun current => p.orderly_reconcile user acting current changes

lemma orderly_createUser (r : CreateRequest) :
    (p.createUser r).Orderly (attributeOrder ++ reconcileOrder) :=
  (p.orderly_validateAttributes r.attributes .new).bind fun _ =>
    ((p.rule.orderly_initial r.user r.acting _).run' ∅).finish fun _ => .done [] _

lemma orderly_patchAttributes (r : PatchRequest) :
    (p.patchAttributes r).Orderly attributeOrder := by
  unfold patchAttributes
  split
  · exact .done _ none
  · exact (p.orderly_validateAttributes _ _).map some

lemma orderly_patchGrants (r : PatchRequest) : (p.patchGrants r).Orderly associateOrder := by
  unfold patchGrants
  split
  · exact .done _ none
  · exact (p.orderly_associate r.user r.acting r.changes).map some

lemma orderly_patchUser (r : PatchRequest) :
    (p.patchUser r).Orderly (attributeOrder ++ associateOrder) :=
  (p.orderly_patchAttributes r).bind fun _ => (p.orderly_patchGrants r).finish fun _ => .done [] _

end Policy

/-- An operation and its input. -/
inductive Operation where
  | validateAttributes (p : Policy) (proposed : SortedMap String Json) (state : RecordState)
  | createUser (p : Policy) (r : CreateRequest)
  | patchUser (p : Policy) (r : PatchRequest)
  | associate (p : Policy) (user acting : Uuid) (changes : List Change)
  | reconcile (p : Policy) (user acting : Uuid) (current : List Grant) (changes : List Change)
  | defineAttribute (d : AttributeDefinition)
  | retireAttribute (name : String)

namespace Operation

/-- What an operation comes to. -/
abbrev Result : Operation → Type
  | validateAttributes _ _ _ => Validation
  | createUser _ _ => Outcome
  | patchUser _ _ => Outcome
  | associate _ _ _ _ => Reconciliation
  | reconcile _ _ _ _ _ => Reconciliation
  | defineAttribute _ => List AttributeDefinition
  | retireAttribute _ => AttributeDefinition × List AttributeDefinition

/-- The work of an operation. -/
def session : (op : Operation) → Session op.Result
  | validateAttributes p proposed state => p.validateAttributes proposed state
  | createUser p r => p.createUser r
  | patchUser p r => p.patchUser r
  | associate p user acting changes => p.associate user acting changes
  | reconcile p user acting current changes => p.reconcile user acting current changes
  | defineAttribute d => Provisioning.defineAttribute d
  | retireAttribute name => Provisioning.retireAttribute name

/-- The order of the questions of an operation. -/
def order : Operation → List Call
  | validateAttributes _ _ _ => Policy.attributeOrder
  | createUser _ _ => Policy.attributeOrder ++ Policy.reconcileOrder
  | patchUser _ _ => Policy.attributeOrder ++ Policy.associateOrder
  | associate _ _ _ _ => Policy.associateOrder
  | reconcile _ _ _ _ _ => Policy.reconcileOrder
  | defineAttribute _ => [.definitions]
  | retireAttribute _ => [.definitions]

lemma orderly : (op : Operation) → op.session.Orderly op.order
  | validateAttributes p proposed state => p.orderly_validateAttributes proposed state
  | createUser p r => p.orderly_createUser r
  | patchUser p r => p.orderly_patchUser r
  | associate p user acting changes => p.orderly_associate user acting changes
  | reconcile p user acting current changes => p.orderly_reconcile user acting current changes
  | defineAttribute d => orderly_defineAttribute d
  | retireAttribute name => orderly_retireAttribute name

end Operation

/-! ### Directories that do not answer -/

namespace Directory

/-- The directory with the given sorts of questions not answered. -/
def withFailing (d : Directory) (failing : List Call) : Directory := { d with failing := failing }

/-- What becomes of a session where some sorts of questions are not answered, compared with the same
session where all are. -/
structure FailsClosed {α : Type} (d : Directory) (name : String) (s : Session α)
    (order failing : List Call) : Prop where
  /-- The result is the same, or it is that a question was not answered. -/
  same_or_unanswered : ((d.withFailing failing).run name s).2 = ((d.withFailing []).run name s).2 ∨
    ∃ call ∈ failing, ∃ keys, ((d.withFailing failing).run name s).2 =
      .error (.unanswered call keys ⟨call, name⟩)
  /-- The latter happens exactly if one of the questions asked otherwise is not answered. -/
  unanswered_iff : (∃ e, ((d.withFailing failing).run name s).2 = .error e ∧ e.isUnanswered) ↔
    ∃ q ∈ s.questions (d.tenant name), q.call ∈ failing
  /-- Then the first of them is named, and no other is asked. -/
  first (before after : List Query) (q : Query) :
    s.questions (d.tenant name) = before ++ q :: after → (∀ q' ∈ before, q'.call ∉ failing) →
      q.call ∈ failing →
      ((d.withFailing failing).run name s).2 =
          .error (.unanswered q.call (q.keys name) ⟨q.call, name⟩) ∧
        ((d.withFailing failing).run name s).1.asked =
          d.asked ++ (before ++ [q]).map Query.call
  /-- Where all are answered, the questions are asked in order and none of them fails. -/
  answered : ((d.withFailing []).run name s).1.asked =
      d.asked ++ (s.questions (d.tenant name)).map Query.call ∧
    ((s.questions (d.tenant name)).map Query.call).Sublist order ∧
    ∀ e, ((d.withFailing []).run name s).2 = .error e → e.isUnanswered = false
  /-- A verdict that is passed is the one passed otherwise. -/
  verdict (a : α) : ((d.withFailing failing).run name s).2 = .ok a →
    ((d.withFailing []).run name s).2 = .ok a
  /-- Nothing that is kept changes. -/
  kept (name' : String) : ((d.withFailing failing).run name s).1.tenant name' = d.tenant name'

section FailsClosed

variable {α : Type} {d : Directory} {name : String} {s : Session α} {failing : List Call}

lemma run_withFailing_of_none (h : (d.withFailing failing).firstOpen? name s = none) :
    ((d.withFailing failing).run name s).2 = s.on (d.tenant name) := by
  rw [run_eq, h]
  rfl

lemma run_withFailing_of_some {q : Query}
    (h : (d.withFailing failing).firstOpen? name s = some q) :
    ((d.withFailing failing).run name s).2 = .error (unanswered name q) := by
  rw [run_eq, h]

lemma asked_withFailing_of_append {before after : List Query} {q : Query}
    (h : s.questions (d.tenant name) = before ++ q :: after)
    (hbefore : ∀ q' ∈ before, q'.call ∉ failing) (hq : q.call ∈ failing) :
    ((d.withFailing failing).run name s).1.asked = d.asked ++ (before ++ [q]).map Query.call := by
  have hopen : (d.withFailing failing).firstOpen? name s = some q :=
    firstOpen?_eq_some.mpr ⟨hq, before, after, h, hbefore⟩
  have hanswered : ∀ q' ∈ before, !(d.withFailing failing).leavesOpen q' := fun q' hq' => by
    simpa [leavesOpen, withFailing] using hbefore q' hq'
  have hleaves : (d.withFailing failing).leavesOpen q := List.contains_iff_mem.mpr hq
  have htake : (s.questions (d.tenant name)).takeWhile (!(d.withFailing failing).leavesOpen ·) =
      before := by
    rw [h, List.takeWhile_append_of_pos hanswered,
      List.takeWhile_cons_of_neg (by simpa using hleaves), List.append_nil]
  rw [asked_run, hopen]
  exact congrArg (fun qs => d.asked ++ (qs ++ [q]).map Query.call) htake

lemma asked_withFailing_nil (d : Directory) (name : String) (s : Session α) :
    ((d.withFailing []).run name s).1.asked =
      d.asked ++ (s.questions (d.tenant name)).map Query.call := by
  have hopen : (d.withFailing []).firstOpen? name s = none :=
    firstOpen?_eq_none.mpr fun _ _ => List.not_mem_nil
  have htake : (s.questions (d.tenant name)).takeWhile (!(d.withFailing []).leavesOpen ·) =
      s.questions (d.tenant name) := List.takeWhile_eq_self_iff.mpr fun _ _ => rfl
  rw [asked_run, hopen]
  exact congrArg (fun qs => d.asked ++ qs.map Query.call) ((List.append_nil _).trans htake)

lemma run_withFailing_nil (d : Directory) (name : String) (s : Session α) :
    ((d.withFailing []).run name s).2 = s.on (d.tenant name) := run_of_answering rfl s

/-- As the session itself never says that a question was not answered, only the directory does. -/
lemma isUnanswered_run_iff {order : List Call} (h : s.Orderly order) :
    (∃ e, ((d.withFailing failing).run name s).2 = .error e ∧ e.isUnanswered) ↔
      ∃ q ∈ s.questions (d.tenant name), q.call ∈ failing := by
  rcases hopen : (d.withFailing failing).firstOpen? name s with _ | q
  · refine iff_of_false ?_ ?_
    · rintro ⟨e, he, hunanswered⟩
      rw [run_withFailing_of_none hopen] at he
      rw [h.isUnanswered_of_on he] at hunanswered
      cases hunanswered
    · rintro ⟨q, hq, hcall⟩
      exact firstOpen?_eq_none.mp hopen q hq hcall
  · have hmem : q ∈ s.questions (d.tenant name) := List.mem_of_find?_eq_some hopen
    exact iff_of_true ⟨_, run_withFailing_of_some hopen, rfl⟩
      ⟨q, hmem, (firstOpen?_eq_some.mp hopen).1⟩

lemma failsClosed_of_orderly {order : List Call} (h : s.Orderly order) (d : Directory)
    (name : String) (failing : List Call) : d.FailsClosed name s order failing where
  same_or_unanswered := by
    rw [run_withFailing_nil]
    rcases hopen : (d.withFailing failing).firstOpen? name s with _ | q
    · exact Or.inl (run_withFailing_of_none hopen)
    · exact Or.inr ⟨q.call, (firstOpen?_eq_some.mp hopen).1, q.keys name,
        run_withFailing_of_some hopen⟩
  unanswered_iff := isUnanswered_run_iff h
  first before after q heq hbefore hq :=
    ⟨run_withFailing_of_some (firstOpen?_eq_some.mpr ⟨hq, before, after, heq, hbefore⟩),
      asked_withFailing_of_append heq hbefore hq⟩
  answered := by
    rw [run_withFailing_nil]
    exact ⟨asked_withFailing_nil d name s, h.sublist _, fun e he => h.isUnanswered_of_on he⟩
  verdict a ha := by
    rw [run_withFailing_nil]
    exact on_of_run (d := d.withFailing failing) ha
  kept name' := tenant_run _ name name' s

end FailsClosed

/-- **No operation makes up an answer**: where some sorts of questions are not answered, it comes to
what it comes to otherwise, or fails with the first question that was not answered. -/
theorem failsClosed (d : Directory) (name : String) (failing : List Call) (op : Operation) :
    d.FailsClosed name op.session op.order failing :=
  failsClosed_of_orderly op.orderly d name failing

/-- Roles are not looked up by name when it is known already that accounts are not. -/
example : ((sample.withFailing [.rolesByName, .accountsByName]).run "acme"
    (Policy.standard.associate 4 4 [.add "main" "writer"])).2 =
    .error (.unanswered .accountsByName ["main"] ⟨.accountsByName, "acme"⟩) := by decide

end Directory

end Provisioning
