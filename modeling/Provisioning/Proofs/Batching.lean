import Provisioning.Proofs.Availability
import Provisioning.Proofs.Grant.Asking

/-!
Questions are asked in bulk, and never again.

All keys of one sort go into one question, and what was learnt is remembered. So the questions of an
operation are at most those of its `Operation.agenda`, in that order, and no key is looked up twice
in the same way (`Directory.AsksSparingly`).
-/

namespace Provisioning

/-! ### Failures -/

/-- If a failure reports roles, they do not exist, and whoever is named was granted them or is said
to have been. -/
def Tenant.ReportsLost (t : Tenant) (given : List Grant) (e : Failure) : Prop :=
  ∀ who roles, e = .unresolvedRoles who roles → ∃ ids : List Uuid, roles = ids.map Uuid.toText ∧
    ∀ id ∈ ids, t.roles.get? id = none ∧ ∃ g ∈ given ++ t.grantsOf who, g.role = id

section ReportsLost

variable {t : Tenant}

lemma Tenant.reportsLost_invalidSchema {given : List Grant} (error : SchemaError) :
    t.ReportsLost given (.invalidSchema error) := fun _ _ h => by cases h

lemma Tenant.reportsLost_held {given : List Grant} {user : Uuid} {g : Grant}
    (hg : g ∈ given ++ t.grantsOf user) (h : t.roles.get? g.role = none) :
    t.ReportsLost given (.unresolvedRoles user [g.role.toText]) := by
  rintro _ _ ⟨⟩
  refine ⟨[g.role], rfl, fun id hid => ?_⟩
  obtain rfl := List.mem_singleton.mp hid
  exact ⟨h, g, hg, rfl⟩

lemma Tenant.reportsLost_principal (given : List Grant) (principal : Uuid) : t.ReportsLost given
    (.unresolvedRoles principal ((t.lostRoles (t.heldRoleIds principal)).map Uuid.toText)) := by
  rintro _ _ ⟨⟩
  refine ⟨_, rfl, fun id hid => ?_⟩
  obtain ⟨⟨g, hg, hrole⟩, hnone⟩ := mem_lostRoles_held.mp hid
  exact ⟨hnone, g, List.mem_append_right given hg, hrole⟩

end ReportsLost

namespace Session

variable {α β : Type} {t : Tenant} {s : Session α} {order order' : List Call}
  {P : Failure → Prop}

/-- Where every question is answered, the session has no other failures. -/
def FailsOnly (t : Tenant) (P : Failure → Prop) (s : Session α) : Prop :=
  ∀ e, s.on t = .error e → P e

lemma failsOnly_pure (a : α) : (pure a : Session α).FailsOnly t P := fun _ h => by cases h

lemma FailsOnly.bind {f : α → Session β} (hs : s.FailsOnly t P)
    (hf : ∀ a, s.on t = .ok a → (f a).FailsOnly t P) : (s >>= f).FailsOnly t P := by
  intro e h
  rw [on_bind] at h
  rcases hon : s.on t with e' | a
  · rw [hon] at h
    obtain rfl := Except.error.inj h
    exact hs _ hon
  · rw [hon] at h
    exact hf a hon e h

lemma failsOnly_invalidSchema (hP : ∀ error, P (.invalidSchema error)) (r : Except SchemaError α) :
    (ofExcept (r.mapError .invalidSchema)).FailsOnly t P := by
  rintro e h
  rw [on_ofExcept] at h
  rcases r with error | a
  · obtain rfl := Except.error.inj h
    exact hP error
  · cases h

lemma failsOnly_loadSchema (hP : ∀ error, P (.invalidSchema error)) : loadSchema.FailsOnly t P :=
  FailsOnly.bind (s := query .definitions) (fun _ h => by cases h) fun _ _ =>
    failsOnly_invalidSchema hP _

lemma failsOnly_validateAttributes (hP : ∀ error, P (.invalidSchema error)) (p : Policy)
    (proposed : SortedMap String Json) (state : RecordState) :
    (p.validateAttributes proposed state).FailsOnly t P := by
  refine (failsOnly_loadSchema hP).bind fun schema _ => FailsOnly.bind (fun e h => ?_) fun _ _ =>
    failsOnly_pure _
  unfold lookUpTaken at h
  split at h <;> cases h

lemma frugal_bind {f : α → Session β} (hs : Frugal order (s.questions t))
    (hf : ∀ a, Frugal order' ((f a).questions t))
    (hcalls : ∀ c ∈ order, c ∈ order' → c.isLookup = false) :
    Frugal (order ++ order') ((s >>= f).questions t) := by
  rw [questions_bind]
  rcases s.on t with e | a
  · exact hs.append_of_calls (frugal_nil order') hcalls
  · exact hs.append_of_calls (hf a) hcalls

end Session

/-! ### Operations -/

namespace Operation

/-- At most what an operation asks, in order. Permission is asked for last, and needs no role by its
name. -/
def agenda : Operation → List Call
  | validateAttributes _ _ _ => Policy.attributeOrder
  | createUser _ _ => Policy.attributeOrder ++
      (PermissionRule.namesOrder ++ PermissionRule.checkOrder)
  | patchUser _ _ => Policy.attributeOrder ++ ([.grants] ++
      (PermissionRule.namesOrder ++ [.rolesById] ++ PermissionRule.checkOrder))
  | associate _ _ _ _ => [.grants] ++
      (PermissionRule.namesOrder ++ [.rolesById] ++ PermissionRule.checkOrder)
  | reconcile _ _ _ _ _ => PermissionRule.namesOrder ++ [.rolesById] ++ PermissionRule.checkOrder
  | defineAttribute _ => [.definitions]
  | retireAttribute _ => [.definitions]

lemma frugal_associate (t : Tenant) (p : Policy) (user acting : Uuid) (changes : List Change) :
    Frugal (associate p user acting changes).agenda
      ((p.associate user acting changes).questions t) := by
  have hquery : Frugal [.grants] ((Session.query (.grants user)).questions t) :=
    frugal_singleton (q := .grants user) trivial
  refine Session.frugal_bind hquery (fun current => ?_) (by decide)
  rw [Policy.reconcile, Resolving.questions_run']
  exact PermissionRule.frugal_reconcile t p.rule user acting current changes

lemma frugal (t : Tenant) : (op : Operation) → Frugal op.agenda (op.session.questions t)
  | validateAttributes p proposed state =>
    frugal_of_orderly (p.orderly_validateAttributes proposed state) (by decide) t
  | createUser p r => by
    refine Session.frugal_bind (frugal_of_orderly (p.orderly_validateAttributes r.attributes .new)
      (by decide) t) (fun attributes => ?_) (by decide)
    rw [Session.questions_finish t _ fun _ => rfl, Resolving.questions_run']
    exact PermissionRule.frugal_initial t p.rule r.user r.acting _
  | patchUser p r => by
    refine Session.frugal_bind (frugal_of_orderly (p.orderly_patchAttributes r)
      (by decide) t) (fun attributes => ?_) (by decide)
    rw [Session.questions_finish t _ fun _ => rfl]
    unfold Policy.patchGrants
    split
    · exact frugal_nil _
    · rw [Session.questions_finish t _ fun _ => rfl]
      exact frugal_associate t p r.user r.acting r.changes
  | associate p user acting changes => frugal_associate t p user acting changes
  | reconcile p user acting current changes => by
    change Frugal _ ((p.reconcile user acting current changes).questions t)
    rw [Policy.reconcile, Resolving.questions_run']
    exact PermissionRule.frugal_reconcile t p.rule user acting current changes
  | defineAttribute d => frugal_of_orderly (orderly_defineAttribute d) (by decide) t
  | retireAttribute name => frugal_of_orderly (orderly_retireAttribute name) (by decide) t

/-- The grants that an operation is told that its user has. -/
def given : Operation → List Grant
  | reconcile _ _ _ current _ => current
  | _ => []

lemma reportsLost_associate (t : Tenant) (p : Policy) (user acting : Uuid)
    (changes : List Change) :
    (p.associate user acting changes).FailsOnly t (t.ReportsLost []) := by
  refine Session.FailsOnly.bind (s := Session.query (.grants user)) (fun _ h => by cases h)
    fun current hcurrent e h => ?_
  obtain rfl := Except.ok.inj hcurrent
  rcases p.rule.on_reconcile_error (Resolving.on_run'_eq_error.mp h) with ⟨g, hg, hnone, rfl⟩ | rfl
  · exact Tenant.reportsLost_held (List.mem_append_right [] hg) hnone
  · exact Tenant.reportsLost_principal [] acting

lemma reportsLost (t : Tenant) : (op : Operation) → op.session.FailsOnly t (t.ReportsLost op.given)
  | validateAttributes p proposed state =>
    Session.failsOnly_validateAttributes Tenant.reportsLost_invalidSchema p proposed state
  | createUser p r => by
    refine (Session.failsOnly_validateAttributes Tenant.reportsLost_invalidSchema p _ _).bind
      fun _ _ => Session.FailsOnly.bind (fun e h => ?_) fun _ _ => Session.failsOnly_pure _
    obtain ⟨principal, rfl⟩ := p.rule.on_initial_error (Resolving.on_run'_eq_error.mp h)
    exact Tenant.reportsLost_principal [] principal
  | patchUser p r => by
    refine Session.FailsOnly.bind ?_ fun _ _ =>
      Session.FailsOnly.bind ?_ fun _ _ => Session.failsOnly_pure _
    · unfold Policy.patchAttributes
      split
      · exact Session.failsOnly_pure _
      · exact (Session.failsOnly_validateAttributes Tenant.reportsLost_invalidSchema p _ _).bind
          fun _ _ => Session.failsOnly_pure _
    · unfold Policy.patchGrants
      split
      · exact Session.failsOnly_pure _
      · exact (reportsLost_associate t p r.user r.acting r.changes).bind
          fun _ _ => Session.failsOnly_pure _
  | associate p user acting changes => reportsLost_associate t p user acting changes
  | reconcile p user acting current changes => fun e h => by
    rcases p.rule.on_reconcile_error (Resolving.on_run'_eq_error.mp h) with ⟨g, hg, hnone, rfl⟩ | rfl
    · exact Tenant.reportsLost_held (List.mem_append_left _ hg) hnone
    · exact Tenant.reportsLost_principal current acting
  | defineAttribute d =>
    (Session.failsOnly_loadSchema Tenant.reportsLost_invalidSchema).bind fun _ _ =>
      (Session.failsOnly_invalidSchema Tenant.reportsLost_invalidSchema _).bind fun _ _ =>
        Session.failsOnly_pure _
  | retireAttribute name =>
    (Session.failsOnly_loadSchema Tenant.reportsLost_invalidSchema).bind fun _ _ =>
      (Session.failsOnly_invalidSchema Tenant.reportsLost_invalidSchema _).bind fun _ _ =>
        Session.failsOnly_pure _

lemma agenda_cases (op : Operation) :
    (∃ before, op.agenda = before ++ PermissionRule.checkOrder) ∨ op.agenda.count .grants = 0 := by
  cases op with
  | validateAttributes | defineAttribute | retireAttribute => exact Or.inr rfl
  | createUser =>
    exact Or.inl ⟨Policy.attributeOrder ++ PermissionRule.namesOrder, by simp [agenda]⟩
  | patchUser =>
    exact Or.inl ⟨Policy.attributeOrder ++ ([.grants] ++ PermissionRule.namesOrder ++
      [.rolesById]), by simp [agenda]⟩
  | associate =>
    exact Or.inl ⟨[.grants] ++ PermissionRule.namesOrder ++ [.rolesById], by simp [agenda]⟩
  | reconcile =>
    exact Or.inl ⟨PermissionRule.namesOrder ++ [.rolesById], by simp [agenda]⟩

lemma count_agenda_le_two (op : Operation) (c : Call) : op.agenda.count c ≤ 2 := by
  cases op <;> dsimp only [agenda] <;> cases c <;> decide

lemma count_agenda_le_one (op : Operation) {c : Call} (hgrants : c ≠ .grants)
    (hroles : c ≠ .rolesById) : op.agenda.count c ≤ 1 := by
  cases op <;> dsimp only [agenda] <;> cases c <;> first | contradiction | decide

lemma count_agenda_createUser_le_one (p : Policy) (r : CreateRequest) (c : Call) :
    (createUser p r).agenda.count c ≤ 1 := by
  dsimp only [agenda]
  cases c <;> decide

end Operation

/-- What follows the last of two things in order is at most what follows it there. -/
lemma sublist_of_count_eq {α : Type} [DecidableEq α] {as bs cs ds : List α} {a : α}
    (h : (as ++ a :: bs).Sublist (cs ++ a :: ds)) (hcount : cs.count a = as.count a) :
    bs.Sublist ds := by
  obtain ⟨xs, ys, heq, hxs, hys⟩ := List.sublist_append_iff.mp h
  rcases List.append_eq_append_iff.mp heq with ⟨zs, rfl, hzs⟩ | ⟨zs, rfl, rfl⟩
  · rcases zs with _ | ⟨b, zs⟩
    · rw [List.nil_append] at hzs
      rw [← hzs] at hys
      exact List.cons_sublist_cons.mp hys
    · obtain ⟨rfl, -⟩ := List.cons.inj hzs
      have hle := hxs.count_le a
      rw [List.count_append, List.count_cons_self] at hle
      omega
  · exact List.cons_sublist_cons.mp ((List.sublist_append_right zs _).trans hys)

namespace Directory

/-- The questions that a directory is asked in a session. -/
def asks {α : Type} (d : Directory) (name : String) (s : Session α) : List Query :=
  (s.run name (d.answer name)).1

/-- An operation asks a directory few questions, and none about a key that it asked about before. -/
structure AsksSparingly (d : Directory) (name : String) (op : Operation) : Prop where
  /-- The directory keeps what it was asked. -/
  asked : (d.run name op.session).1.asked =
    d.asked ++ (d.asks name op.session).map Query.call
  /-- Questions come in order, each sort as often as it is listed or less. -/
  agenda : ((d.asks name op.session).map Query.call).Sublist op.agenda
  /-- So grants and roles by identifier are asked for at most twice, and all else at most once. -/
  twice (c : Call) : ((d.asks name op.session).map Query.call).count c ≤ 2
  once {c : Call} (hgrants : c ≠ .grants) (hroles : c ≠ .rolesById) :
    ((d.asks name op.session).map Query.call).count c ≤ 1
  /-- For a new user everything is asked for at most once. -/
  createUser (p : Policy) (r : CreateRequest) (hop : op = .createUser p r) (c : Call) :
    ((d.asks name op.session).map Query.call).count c ≤ 1
  /-- A batch without changes needs no question. -/
  nothing (p : Policy) (user acting : Uuid) (current : List Grant)
    (hop : op = .reconcile p user acting current []) : d.asks name op.session = []
  /-- There are keys in every lookup of accounts or roles, in order and none of them twice. -/
  keys : ∀ q ∈ d.asks name op.session, q.Tidy
  /-- No key is looked up twice in the same way. -/
  apart : (d.asks name op.session).Pairwise Query.Apart
  /-- Once the grants of the acting principal are asked for, which is when grants are asked for the
  last time, only roles by identifier are. -/
  permission {before after : List Query} {principal : Uuid}
    (h : d.asks name op.session = before ++ .grants principal :: after)
    (hlast : (before.map Query.call).count .grants + 1 = op.agenda.count .grants) :
    ∀ q ∈ after, q.call = .rolesById
  /-- So roles that are reported are held by whom they are reported for, never those in question. -/
  lost {who : Uuid} {roles : List String}
    (h : (d.run name op.session).2 = .error (.unresolvedRoles who roles)) :
    ∃ ids : List Uuid, roles = ids.map Uuid.toText ∧ ∀ id ∈ ids,
      (d.tenant name).roles.get? id = none ∧
        ∃ g ∈ op.given ++ (d.tenant name).grantsOf who, g.role = id

lemma frugal_asks (d : Directory) (name : String) (op : Operation) :
    Frugal op.agenda (d.asks name op.session) :=
  (op.frugal (d.tenant name)).sublist
    (Session.questions_of_run (fun _ _ => answer_spec) op.session).sublist

/-- **Questions are asked in bulk and never again**, whatever is kept, whatever is not answered and
however much is requested. -/
theorem asksSparingly (d : Directory) (name : String) (op : Operation) :
    d.AsksSparingly name op where
  asked := rfl
  agenda := (d.frugal_asks name op).order
  twice c := ((d.frugal_asks name op).order.count_le c).trans (op.count_agenda_le_two c)
  once hgrants hroles :=
    ((d.frugal_asks name op).order.count_le _).trans (op.count_agenda_le_one hgrants hroles)
  createUser p r hop c := by
    subst hop
    exact ((d.frugal_asks name _).order.count_le c).trans
      (Operation.count_agenda_createUser_le_one p r c)
  nothing p user acting current hop := by
    subst hop
    rfl
  keys := (d.frugal_asks name op).tidy
  apart := (d.frugal_asks name op).apart
  permission {before after principal} h hlast q hq := by
    have horder := (d.frugal_asks name op).order
    rw [h, List.map_append, List.map_cons] at horder
    rcases op.agenda_cases with ⟨start, hagenda⟩ | hnone
    · rw [hagenda] at horder hlast
      have hcount : start.count .grants = (before.map Query.call).count .grants := by
        rw [List.count_append] at hlast
        exact (Nat.add_right_cancel hlast).symm
      have hafter := sublist_of_count_eq horder hcount
      exact List.mem_singleton.mp (hafter.subset (List.mem_map_of_mem hq))
    · omega
  lost {who roles} h := by
    rw [run_eq] at h
    rcases hopen : d.firstOpen? name op.session with _ | q
    · rw [hopen] at h
      exact op.reportsLost (d.tenant name) _ h who roles rfl
    · rw [hopen] at h
      cases h

/-- One role is replaced by another. The acting principal has a role that was looked up by its name
for the batch, so it is not looked up again. -/
example : sample.asks "acme" (Operation.session
    (.associate .standard 4 5 [.removeOne "main" "reader", .add "main" "writer"])) =
    [.grants 4, .accountsByName ["main"], .rolesByName ["reader", "writer"], .rolesById [2],
      .grants 5] := by decide

end Directory

end Provisioning
