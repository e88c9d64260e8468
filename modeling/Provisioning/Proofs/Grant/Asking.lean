import Provisioning.Proofs.Frugal
import Provisioning.Proofs.Grant.Creation
import Provisioning.Proofs.Shortcut

/-!
What is asked about a batch.

Of the roles of the acting principal only those are looked up that were not looked up for the batch,
and since every role that is remembered is remembered by its name (`Memo.Linked`), no role in
question is looked up again when permission is asked for. So the questions about a batch are frugal
(`frugal_reconcile`, `frugal_initial`), and what is reported as missing is never a role in question
(`on_reconcile_error`, `on_initial_error`).
-/

namespace Provisioning

/-! ### Asking for permission -/

namespace PermissionRule

open Resolving

variable {t : Tenant} {l l' : Lookups} (rule : PermissionRule) {user acting : Uuid}
  {held roles : SortedSet String}

/-- What is asked about a principal where roles in question are known: the grants, and the roles of
which nothing is known. -/
def inquiry (t : Tenant) (l : Lookups) (acting : Uuid) : List Query :=
  .grants acting :: lookUp .rolesById (l.roles.unseenIds (t.heldRoleIds acting))

lemma asks_heldRoles (acting : Uuid) (ids : List Uuid) :
    asks t (heldRoles acting ids) l = lookUp .rolesById (l.roles.unseenIds ids) := by
  unfold heldRoles loadRolesById
  rw [asks_finish, asks_get_bind, asks_bind_of_ok (on_lift (on_fetchRolesById _)), asks_lift,
    questions_fetchRolesById]
  · exact List.append_nil _
  · intro _ l₁
    rw [asks_get_bind, asks_ite]
    exact ite_self _

/-- The roles held lead to roles by their names then, and so does what did before. -/
lemma leads_of_heldRoles (hl : l.roles.Told t.roles) {ids : List Uuid}
    (h : on t (heldRoles acting ids) l = .ok (held, l')) :
    Leads l' held ∧ ∀ names, Leads l names → Leads l' names := by
  unfold heldRoles loadRolesById at h
  obtain ⟨_, l₁, hload, hrest⟩ := on_bind_eq_ok.mp h
  rw [on_get_bind, on_bind_of_ok (on_lift (on_fetchRolesById _)), on_modify] at hload
  obtain rfl := (Prod.mk.inj (Except.ok.inj hload)).2
  rw [on_get_bind, on_ite] at hrest
  split at hrest
  · obtain ⟨rfl, rfl⟩ := Prod.mk.inj (Except.ok.inj hrest)
    refine ⟨leads_names (hl.linked.recordById _ _) ids, fun names hnames name hname => ?_⟩
    exact hl.linked.isSome_getByName?_insertAll (hnames name hname) _
  · cases hrest

/-- No role is looked up by its name when permission is asked for, as those in question and those
held are known. -/
lemma asks_isPermitted (hl : l.roles.Told t.roles) (hroles : Leads l roles) :
    asks t (rule.isPermitted acting roles) l = inquiry t l acting := by
  unfold isPermitted evaluate inquiry
  rw [asks_bind_of_ok (on_lift (Session.on_query t _)), asks_lift]
  change .grants acting :: asks t (heldRoles acting (t.heldRoleIds acting) >>= _) l = _
  rcases hon : on t (heldRoles acting (t.heldRoleIds acting)) l with e | ⟨held, l'⟩
  · rw [asks_bind_of_error hon, asks_heldRoles]
  · obtain ⟨hheld, hkept⟩ := leads_of_heldRoles hl hon
    have hcompare : asks t (rule.compareScopes acting held roles) l' = [] :=
      congrArg (Session.questions t) (run_compareScopes rule acting hheld (hkept roles hroles))
    rw [asks_bind_of_ok hon, asks_heldRoles, asks_ite, hcompare]
    congr 1
    exact (congrArg _ (ite_self _)).trans (List.append_nil _)

/-- All that can go wrong is that roles of the principal do not exist. -/
lemma on_isPermitted_error (hl : l.roles.Told t.roles) (hroles : Leads l roles) {e : Failure}
    (h : on t (rule.isPermitted acting roles) l = .error e) :
    e = .unresolvedRoles acting ((t.lostRoles (t.heldRoleIds acting)).map Uuid.toText) := by
  by_cases hlost : t.lostRoles (t.heldRoleIds acting) = []
  · obtain ⟨l', -, hon⟩ := on_heldRoles acting hl.reflects (t.heldRoleIds acting)
    rw [if_pos (by simp [hlost])] at hon
    obtain ⟨hheld, hkept⟩ := leads_of_heldRoles hl hon
    have hcompare : on t (rule.compareScopes acting (t.roleNames (t.heldRoleIds acting)) roles) l' =
        .ok (rule.decide (scopesOf l' (t.roleNames (t.heldRoleIds acting)).toList)
          (scopesOf l' roles.toList), l') :=
      congrArg (Session.on t) (run_compareScopes rule acting hheld (hkept roles hroles))
    unfold isPermitted evaluate at h
    rw [on_bind_of_ok (on_lift (Session.on_query t _))] at h
    change on t (heldRoles acting (t.heldRoleIds acting) >>= _) l = _ at h
    rw [on_bind_of_ok hon, on_ite, hcompare] at h
    split at h <;> cases h
  · rw [on_isPermitted_of_lost hl.reflects roles hlost] at h
    exact (Except.error.inj h).symm

lemma asks_permit (hl : l.roles.Told t.roles) (hroles : Leads l roles) (requests : List Change)
    (changes : GrantChanges) :
    asks t (rule.permit acting roles requests changes) l = inquiry t l acting := by
  unfold permit
  rw [asks_finish, rule.asks_isPermitted hl hroles]
  intro decision l₁
  rw [asks_ite]
  exact ite_self _

lemma on_permit_error (hl : l.roles.Told t.roles) (hroles : Leads l roles)
    {requests : List Change} {changes : GrantChanges} {e : Failure}
    (h : on t (rule.permit acting roles requests changes) l = .error e) :
    e = .unresolvedRoles acting ((t.lostRoles (t.heldRoleIds acting)).map Uuid.toText) := by
  unfold permit at h
  rcases hon : on t (rule.isPermitted acting roles) l with e' | ⟨decision, l₁⟩
  · rw [on_bind_of_error hon] at h
    obtain rfl := Except.error.inj h
    exact rule.on_isPermitted_error hl hroles hon
  · rw [on_bind_of_ok hon, on_ite] at h
    split at h <;> cases h

/-! ### Judging batches -/

section Batch

variable {current : List Grant} {batch : List ResolvedChange}

/-- The role of each change of a batch leads to a role by its name. -/
def NamesLead (l : Lookups) (batch : List ResolvedChange) : Prop :=
  ∀ r ∈ batch, ∀ id name, r.role = some (id, name) → (l.roles.getByName? name).isSome

lemma namesLead_resolvedChanges (hl : l.roles.Linked) (changes : List Change) :
    NamesLead l (resolvedChanges l changes) := by
  intro r hr id name hrole
  obtain ⟨c, -, hc⟩ := List.mem_filterMap.mp hr
  rcases hres : resolveChange l c with errors | r'
  · rw [hres] at hc
    cases hc
  rw [hres] at hc
  obtain rfl := Option.some.inj hc
  have htarget := (resolveChange_eq_ok hres).2
  rw [hrole] at htarget
  rcases hname : c.target with n | _
  · rw [hname] at htarget
    obtain ⟨role, hget, heq⟩ := Option.map_eq_some_iff.mp htarget
    obtain ⟨-, rfl⟩ := Prod.mk.inj (Option.some.inj heq)
    obtain ⟨id', -, hid'⟩ := Option.bind_eq_some_iff.mp hget
    exact hl.isSome_getByName? hid'
  · rw [hname] at htarget
    cases htarget

lemma NamesLead.byPriority (h : NamesLead l batch) : NamesLead l (byPriority batch) :=
  fun r hr => h r (mem_byPriority.mp hr)

/-- The roles of what is requested lead to roles by their names. -/
lemma leads_requested (hl : l.roles.Linked) (changes : List Change) :
    Leads l (.ofList (((resolvedChanges l changes).filterMap (·.role)).map Prod.snd)) := by
  intro name hname
  obtain ⟨⟨id, name⟩, hrole, rfl⟩ := List.mem_map.mp (SortedSet.mem_ofList.mp hname)
  obtain ⟨r, hr, hrole⟩ := List.mem_filterMap.mp hrole
  exact namesLead_resolvedChanges hl changes r hr id name hrole

variable (hl : l.roles.Told t.roles) (hbatch : NamesLead l batch)

include hl hbatch

/-- The roles that a batch touches lead to roles by their names. -/
lemma leads_roleNames {held : List Entitlement} {effects : List Effect}
    (h : judgeChanges l user held batch = .ok effects) :
    Leads l (.ofList (effects.flatMap Effect.roleNames)) := by
  intro name hname
  obtain ⟨effect, heffect, hmem⟩ := List.mem_flatMap.mp (SortedSet.mem_ofList.mp hname)
  obtain ⟨r, hr, hjudge⟩ := (mem_effects h).mp heffect
  cases judged_of_judgeChange hjudge with
  | refuse => cases hmem
  | removeOne _ target =>
    obtain rfl := List.mem_singleton.mp hmem
    exact hbatch r hr _ _ target
  | removeAll _ _ _ _ named =>
    obtain ⟨⟨e, name'⟩, he, rfl⟩ := List.mem_map.mp hmem
    obtain ⟨id, -, -, role, hget, rfl⟩ := (namedRoles_spec named).mp he
    exact hl.linked.isSome_getByName? hget
  | add _ target =>
    obtain rfl := List.mem_singleton.mp hmem
    exact hbatch r hr _ _ target

lemma asks_judgeBatch (user acting : Uuid) (current : List Grant) :
    asks t (rule.judgeBatch l user acting current batch) l = [] ∨
      asks t (rule.judgeBatch l user acting current batch) l = inquiry t l acting := by
  unfold judgeBatch
  split
  · exact Or.inl rfl
  next effects heffects =>
    simp only [asks_ite, rule.asks_permit hl (leads_roleNames hl hbatch heffects)]
    split
    · exact Or.inl rfl
    · split
      · exact Or.inl rfl
      · split
        · exact Or.inl rfl
        · exact Or.inr rfl

lemma on_judgeBatch_error {e : Failure}
    (h : on t (rule.judgeBatch l user acting current batch) l = .error e) :
    (∃ g ∈ current, l.roles.get? g.role = none ∧ e = .unresolvedRoles user [g.role.toText]) ∨
      e = .unresolvedRoles acting ((t.lostRoles (t.heldRoleIds acting)).map Uuid.toText) := by
  unfold judgeBatch at h
  split at h
  next e' he' =>
    obtain rfl := Except.error.inj h
    obtain ⟨e, he, hnone, rfl⟩ := judgeChanges_error he'
    obtain ⟨g, hg, rfl⟩ := List.mem_map.mp he
    exact Or.inl ⟨g, hg, hnone, rfl⟩
  next effects heffects =>
    simp only [on_ite] at h
    split at h
    · cases h
    · split at h
      · cases h
      · split at h
        · cases h
        · exact Or.inr (rule.on_permit_error hl (leads_roleNames hl hbatch heffects) h)

end Batch

/-! ### Whole batches -/

/-- The order of the questions about what a batch names. -/
def namesOrder : List Call := [.accountsById, .accountsByName, .rolesByName]

/-- The order of the questions about the permission of a principal, where the roles in question are
known. -/
def checkOrder : List Call := [.grants, .rolesById]

lemma frugal_inquiry (t : Tenant) (l : Lookups) (acting : Uuid) :
    Frugal checkOrder (inquiry t l acting) := by
  have hgrants : Frugal [.grants] [.grants acting] := frugal_singleton (q := .grants acting) trivial
  have hroles := frugal_lookUp .rolesById (fun _ => rfl) (fun _ => id)
    (l.roles.ascending_unseenIds (t.heldRoleIds acting))
  exact hgrants.append_of_calls hroles (by decide)

/-- Of the roles of the principal only those are looked up that were not looked up before. -/
lemma apart_inquiry {ids : List Uuid} (hids : ∀ id ∈ ids, l.roles.KnowsId id)
    {q q' : Query} (hq : q ∈ lookUp .rolesById ((∅ : Memo Role).unseenIds ids))
    (hq' : q' ∈ inquiry t l acting) : q.Apart q' := by
  unfold inquiry at hq'
  unfold lookUp at hq hq'
  split at hq
  · cases hq
  obtain rfl := List.mem_singleton.mp hq
  rcases List.mem_cons.mp hq' with rfl | hq'
  · trivial
  · split at hq'
    · cases hq'
    obtain rfl := List.mem_singleton.mp hq'
    intro id hid hid'
    exact (Memo.mem_unseenIds.mp hid').2 (hids id (Memo.mem_unseenIds.mp hid).1)

lemma frugal_reconcile (t : Tenant) (rule : PermissionRule) (user acting : Uuid)
    (current : List Grant) (changes : List Change) :
    Frugal (namesOrder ++ [.rolesById] ++ checkOrder)
      (asks t (rule.reconcile user acting current changes) ∅) := by
  obtain ⟨qs, hqs, hasks⟩ := asks_resolveReferences (t := t) changes
    ((distinctGrants current).map (·.role))
  obtain ⟨l, hon, hl, hids⟩ := told_resolveReferences (t := t) changes
    ((distinctGrants current).map (·.role))
  have hheld := frugal_lookUp .rolesById (fun _ => rfl) (fun _ => id)
    ((∅ : Memo Role).ascending_unseenIds ((distinctGrants current).map (·.role)))
  have hbatch := (namesLead_resolvedChanges hl.linked changes).byPriority
  have hnames := hqs.append_of_calls hheld (by decide)
  have hnone := hnames.append (frugal_nil checkOrder) (by simp)
  have hinquiry := hnames.append (frugal_inquiry t l acting) fun q hq q' hq' => by
    rcases List.mem_append.mp hq with hq | hq
    · have hcall : ∀ c ∈ namesOrder, ∀ c' ∈ checkOrder, c ≠ c' := by decide
      exact Query.apart_of_call_ne
        (hcall _ (hqs.call_mem hq) _ ((frugal_inquiry t l acting).call_mem hq'))
    · exact apart_inquiry hids hq hq'
  unfold reconcile
  dsimp only
  rw [asks_ite, asks_bind_of_ok hon, hasks, asks_get_bind, asks_ite]
  split
  · exact frugal_nil _
  · split
    · rcases rule.asks_judgeBatch hl hbatch user acting (distinctGrants current) with h | h
      · rw [h]
        exact hnone
      · rw [h]
        exact hinquiry
    · exact hnone

lemma frugal_initial (t : Tenant) (rule : PermissionRule) (user : Uuid) (acting : Option Uuid)
    (requested : List RequestedGrant) :
    Frugal (namesOrder ++ checkOrder) (asks t (rule.initial user acting requested) ∅) := by
  obtain ⟨qs, hqs, hasks⟩ := asks_resolveReferences (t := t)
    (requested.map RequestedGrant.toChange) []
  obtain ⟨l, hon, hl, -⟩ := told_resolveReferences (t := t)
    (requested.map RequestedGrant.toChange) []
  have hnone := hqs.append (frugal_nil checkOrder) (by simp)
  have hnoHeld : lookUp .rolesById ((∅ : Memo Role).unseenIds []) = [] := rfl
  unfold initial
  dsimp only
  rw [asks_bind_of_ok hon, hasks, hnoHeld, List.append_nil, asks_get_bind, asks_ite, asks_ite]
  split
  · exact hnone
  · split
    · exact hnone
    · cases acting with
      | none => exact hnone
      | some acting =>
        dsimp only
        rw [rule.asks_permit hl (leads_requested hl.linked _)]
        exact hqs.append_of_calls (frugal_inquiry t l acting) (by decide)

/-- A batch fails only for a role that the user has, or for roles that the principal has, that do not
exist. -/
lemma on_reconcile_error {current : List Grant} {changes : List Change} {e : Failure}
    (h : on t (rule.reconcile user acting current changes) ∅ = .error e) :
    (∃ g ∈ current, t.roles.get? g.role = none ∧ e = .unresolvedRoles user [g.role.toText]) ∨
      e = .unresolvedRoles acting ((t.lostRoles (t.heldRoleIds acting)).map Uuid.toText) := by
  obtain ⟨l, hon, hl, hids⟩ := told_resolveReferences (t := t) changes
    ((distinctGrants current).map (·.role))
  have hbatch := (namesLead_resolvedChanges hl.linked changes).byPriority
  unfold reconcile at h
  dsimp only at h
  rw [on_ite, on_bind_of_ok hon, on_get_bind, on_ite] at h
  split at h
  · cases h
  · split at h
    · rcases rule.on_judgeBatch_error hl hbatch h with ⟨g, hg, hnone, rfl⟩ | rfl
      · refine Or.inl ⟨g, mem_of_mem_distinctGrants hg, ?_, rfl⟩
        rw [← hl.reflects.get?_eq (hids _ (List.mem_map_of_mem hg))]
        exact hnone
      · exact Or.inr rfl
    · cases h

/-- First grants fail only for roles that the principal has. -/
lemma on_initial_error {acting : Option Uuid} {requested : List RequestedGrant} {e : Failure}
    (h : on t (rule.initial user acting requested) ∅ = .error e) : ∃ principal,
      e = .unresolvedRoles principal ((t.lostRoles (t.heldRoleIds principal)).map Uuid.toText) := by
  obtain ⟨l, hon, hl, -⟩ := told_resolveReferences (t := t)
    (requested.map RequestedGrant.toChange) []
  unfold initial at h
  dsimp only at h
  rw [on_bind_of_ok hon, on_get_bind, on_ite, on_ite] at h
  split at h
  · cases h
  · split at h
    · cases h
    · cases acting with
      | none => cases h
      | some acting => exact ⟨acting, rule.on_permit_error hl (leads_requested hl.linked _) h⟩

end PermissionRule

end Provisioning
