import Provisioning.Proofs.Agreement
import Provisioning.Proofs.Grant.Stages

/-!
Requests that differ in how they name accounts.

An account is named by its name or by any text that reads as its identifier. Batches that differ only
in that (`Tenant.Renamed`) are looked up to changes of the same entitlements, one by one; these are
judged alike, and permission is asked for the same roles. So they end in the same way, but for the
texts that errors repeat (`sameEnd_reconcile`, `sameEnd_initial`).
-/

namespace Provisioning

/-- A text stands for an identifier: it reads as the identifier, or it does not read as any and is
the name of the account that has it. -/
inductive Tenant.StandsFor (t : Tenant) : String → Uuid → Prop where
  | identifier {text : String} {id : Uuid} (h : Uuid.ofText? text = some id) : StandsFor t text id
  | name {text : String} {a : Account} (h : Uuid.ofText? text = none)
    (ha : t.accounts.named? text = some a) : StandsFor t text a.id

/-- Two texts are the same, or stand for the same identifier. -/
def Tenant.SameAccount (t : Tenant) (text text' : String) : Prop :=
  text = text' ∨ ∃ id, t.StandsFor text id ∧ t.StandsFor text' id

/-- Two changes differ at most in how they name their account. -/
structure Tenant.Renamed (t : Tenant) (c c' : Change) : Prop where
  account : t.SameAccount c.account c'.account
  target : c.target = c'.target
  op : c.op = c'.op

/-- Two requested entitlements differ at most in how they name their account. -/
structure Tenant.RenamedRequest (t : Tenant) (q q' : RequestedGrant) : Prop where
  account : t.SameAccount q.account q'.account
  role : q.role = q'.role

lemma Tenant.RenamedRequest.toChange {t : Tenant} {q q' : RequestedGrant}
    (h : t.RenamedRequest q q') : t.Renamed q.toChange q'.toChange :=
  ⟨h.account, congrArg ChangeTarget.role h.role, rfl⟩

/-- Two errors differ at most in how they name the account. -/
structure Tenant.RenamedError (t : Tenant) (e e' : ChangeError) : Prop where
  account : t.SameAccount e.account e'.account
  target : e.target = e'.target
  op : e.op = e'.op
  fault : e.fault = e'.fault

/-- Two rejections differ at most in how their errors name accounts, one by one. -/
inductive Tenant.SameRejection (t : Tenant) : Rejection → Rejection → Prop where
  | unknownReferences {es es' : List ChangeError} (h : List.Forall₂ t.RenamedError es es') :
    SameRejection t (.unknownReferences es) (.unknownReferences es')
  | invalidOperations {es es' : List ChangeError} (h : List.Forall₂ t.RenamedError es es') :
    SameRejection t (.invalidOperations es) (.invalidOperations es')
  | leavesNothing (user : Uuid) : SameRejection t (.leavesNothing user) (.leavesNothing user)
  | notPermitted (acting : Uuid) (roles : List String) :
    SameRejection t (.notPermitted acting roles) (.notPermitted acting roles)

/-- Two verdicts apply the same, or reject in the same way with errors that differ at most in how
they name accounts, one by one. -/
inductive Tenant.SameVerdict (t : Tenant) : Reconciliation → Reconciliation → Prop where
  | applied (done : GrantChanges) : SameVerdict t (.applied done) (.applied done)
  | rejected {r r' : Rejection} {es es' : List ChangeError} (h : t.SameRejection r r')
    (errors : List.Forall₂ t.RenamedError es es') : SameVerdict t (.rejected r es) (.rejected r' es')

/-! ### Looking up -/

section References

variable {t : Tenant} {text text' : String} {id : Uuid} {c c' : Change} {r r' : ResolvedChange}
  {changes changes' : List Change}

lemma Tenant.StandsFor.account?_eq (h : t.StandsFor text id) :
    t.account? text = (t.accounts.get? id).map (·.id) := by
  cases h with
  | identifier h => simp [account?, AccountRef.ofText, h]
  | @name a h ha =>
    have hget : t.accounts.get? a.id = some a :=
      Catalogue.mem_values.mp (Catalogue.named?_spec ha).1
    simp [account?, AccountRef.ofText, h, ha, hget]

lemma Tenant.SameAccount.account?_eq (h : t.SameAccount text text') :
    t.account? text = t.account? text' := by
  rcases h with rfl | ⟨id, h, h'⟩
  · rfl
  · rw [h.account?_eq, h'.account?_eq]

lemma Tenant.Renamed.unknown_iff (h : t.Renamed c c') : t.Unknown c ↔ t.Unknown c' := by
  unfold Unknown
  rw [h.account.account?_eq, h.target]

lemma Tenant.Renamed.refuse (h : t.Renamed c c') (fault : ChangeFault) :
    t.RenamedError (c.refuse fault) (c'.refuse fault) :=
  ⟨h.account, congrArg ChangeTarget.toText h.target, h.op, rfl⟩

lemma Tenant.Renamed.missingReferences (h : t.Renamed c c') :
    List.Forall₂ t.RenamedError (t.missingReferences c) (t.missingReferences c') := by
  unfold Tenant.missingReferences
  rw [h.account.account?_eq, h.target]
  refine List.rel_append ?_ ?_ <;> split
  · exact .cons (h.refuse _) .nil
  · exact .nil
  · exact .cons (h.refuse _) .nil
  · exact .nil

/-- Two changes were looked up that differ at most in how they name their account. -/
structure Tenant.RenamedResolved (t : Tenant) (r r' : ResolvedChange) : Prop where
  change : t.Renamed r.change r'.change
  account : r.account = r'.account
  role : r.role = r'.role

lemma Tenant.RenamedResolved.grantOf?_eq (h : t.RenamedResolved r r') (user : Uuid) :
    PermissionRule.grantOf? user r = PermissionRule.grantOf? user r' := by
  unfold PermissionRule.grantOf?
  rw [h.role, h.account]

lemma Tenant.Renamed.resolve? (h : t.Renamed c c') :
    Option.Rel t.RenamedResolved (t.resolve? c) (t.resolve? c') := by
  unfold Tenant.resolve?
  rw [h.account.account?_eq, h.target]
  rcases t.account? c'.account with _ | account <;> rcases t.target? c'.target with _ | role
  · exact .none
  · exact .none
  · exact .none
  · exact .some ⟨h, rfl, rfl⟩

variable (h : List.Forall₂ t.Renamed changes changes')

include h

lemma Tenant.exists_unknown_iff :
    (∃ c ∈ changes, t.Unknown c) ↔ ∃ c ∈ changes', t.Unknown c := by
  induction h with
  | nil => rfl
  | cons hc _ ih => rw [List.exists_mem_cons_iff, List.exists_mem_cons_iff, hc.unknown_iff, ih]

lemma Tenant.forall₂_missingReferencesOf :
    List.Forall₂ t.RenamedError (t.missingReferencesOf changes)
      (t.missingReferencesOf changes') :=
  List.rel_flatMap h fun _ _ hc => hc.missingReferences

lemma Tenant.forall₂_resolveAll :
    List.Forall₂ t.RenamedResolved (t.resolveAll changes) (t.resolveAll changes') :=
  List.rel_filterMap (fun _ _ hc => hc.resolve?) h

end References

lemma Tenant.forall₂_byPriority {t : Tenant} {batch batch' : List ResolvedChange}
    (h : List.Forall₂ t.RenamedResolved batch batch') :
    List.Forall₂ t.RenamedResolved (byPriority batch) (byPriority batch') := by
  unfold byPriority ChangeOp.inOrder
  refine List.rel_flatMap (List.forall₂_same.mpr fun op _ => rfl) ?_
  rintro op _ rfl
  refine List.rel_filter (fun r r' hr => ?_) h
  have hop : r.change.op = r'.change.op := hr.change.op
  simp only [hop]

/-! ### Judging -/

/-- Two judgements differ at most in how a refusal names the account. -/
inductive Tenant.RenamedEffect (t : Tenant) : Effect → Effect → Prop where
  | refuse {e e' : ChangeError} (h : t.RenamedError e e') :
    RenamedEffect t (.refuse e) (.refuse e')
  | remove (taken : List (Entitlement × String)) : RenamedEffect t (.remove taken) (.remove taken)
  | add (given : Entitlement) (role : String) : RenamedEffect t (.add given role) (.add given role)

section Judging

variable {t : Tenant} {l l' : Lookups} {user : Uuid} {held : List Entitlement}
  {r r' : ResolvedChange} {batch batch' : List ResolvedChange} {effects effects' : List Effect}

lemma namedRoles_congr {account : Uuid} {ids : List Uuid}
    (h : ∀ id ∈ ids, l.roles.get? id = l'.roles.get? id) :
    namedRoles l user account ids = namedRoles l' user account ids := by
  induction ids with
  | nil => rfl
  | cons id rest ih =>
    obtain ⟨hid, hrest⟩ := List.forall_mem_cons.mp h
    unfold namedRoles
    rw [hid, ih hrest]

section Held

variable (hheld : ∀ e ∈ held, l.roles.get? e.role = l'.roles.get? e.role)

include hheld

lemma Tenant.RenamedResolved.judgeChange (user : Uuid) (h : t.RenamedResolved r r') :
    SameEnd Eq t.RenamedEffect (judgeChange l user held r) (judgeChange l' user held r') := by
  have hnamed : namedRoles l user r'.account (rolesOn held r'.account) =
      namedRoles l' user r'.account (rolesOn held r'.account) :=
    namedRoles_congr fun id hid => hheld _ (mem_rolesOn.mp hid)
  have hrefuse : ∀ fault, SameEnd Eq t.RenamedEffect
      (.ok (.refuse (r.change.refuse fault)) : Except Failure Effect)
      (.ok (.refuse (r'.change.refuse fault))) := fun fault => .ok (.refuse (h.change.refuse fault))
  unfold Provisioning.judgeChange
  rw [h.change.op, h.role, h.account]
  split
  · split
    · exact .ok (.remove _)
    · exact hrefuse _
  · split
    · exact hrefuse _
    · rw [hnamed]
      rcases namedRoles l' user r'.account (rolesOn held r'.account) with e | taken
      · exact .error rfl
      · exact .ok (.remove taken)
  · split
    · exact hrefuse _
    · exact .ok (.add _ _)
  all_goals exact hrefuse _

lemma Tenant.sameEnd_judgeChanges (user : Uuid) (h : List.Forall₂ t.RenamedResolved batch batch') :
    SameEnd Eq (List.Forall₂ t.RenamedEffect) (judgeChanges l user held batch)
      (judgeChanges l' user held batch') := by
  induction h with
  | nil => exact .ok .nil
  | @cons r r' rest rest' hr _ ih =>
    have hchange := hr.judgeChange hheld user
    unfold judgeChanges
    generalize Provisioning.judgeChange l user held r = judged at hchange
    generalize Provisioning.judgeChange l' user held r' = judged' at hchange
    generalize judgeChanges l user held rest = judgedRest at ih
    generalize judgeChanges l' user held rest' = judgedRest' at ih
    cases hchange with
    | error he => exact .error he
    | ok heffect =>
      cases ih with
      | error he => exact .error he
      | ok hrest => exact .ok (.cons heffect hrest)

end Held

section Lists

variable {α β γ : Type} {R : α → β → Prop} {as : List α} {bs : List β}
  (h : List.Forall₂ R as bs)

include h

lemma filterMap_eq_of_forall₂ {f : α → Option γ} {g : β → Option γ}
    (hfg : ∀ a b, R a b → f a = g b) : as.filterMap f = bs.filterMap g := by
  induction h with
  | nil => rfl
  | cons hab _ ih => rw [List.filterMap_cons, List.filterMap_cons, hfg _ _ hab, ih]

lemma flatMap_eq_of_forall₂ {f : α → List γ} {g : β → List γ} (hfg : ∀ a b, R a b → f a = g b) :
    as.flatMap f = bs.flatMap g := by
  induction h with
  | nil => rfl
  | cons hab _ ih => rw [List.flatMap_cons, List.flatMap_cons, hfg _ _ hab, ih]

lemma isEmpty_eq_of_forall₂ : as.isEmpty = bs.isEmpty := by
  cases h <;> rfl

end Lists

section Effects

variable (h : List.Forall₂ t.RenamedEffect effects effects')

include h

lemma Tenant.forall₂_errors : List.Forall₂ t.RenamedError (effects.filterMap Effect.error?)
    (effects'.filterMap Effect.error?) := by
  refine List.rel_filterMap (fun effect effect' heffect => ?_) h
  cases heffect with
  | refuse he => exact .some he
  | remove | add => exact .none

lemma Tenant.applyEffects_eq_of_renamed (current : List Grant) :
    applyEffects user current effects = applyEffects user current effects' := by
  have htaken : effects.flatMap Effect.taken = effects'.flatMap Effect.taken :=
    flatMap_eq_of_forall₂ h fun _ _ heffect => by cases heffect <;> rfl
  have hgiven : effects.filterMap Effect.given? = effects'.filterMap Effect.given? :=
    filterMap_eq_of_forall₂ h fun _ _ heffect => by cases heffect <;> rfl
  unfold applyEffects
  rw [htaken, hgiven]

lemma Tenant.flatMap_roleNames_eq_of_renamed :
    effects.flatMap Effect.roleNames = effects'.flatMap Effect.roleNames :=
  flatMap_eq_of_forall₂ h fun _ _ heffect => by cases heffect <;> rfl

end Effects

end Judging

/-! ### Verdicts -/

namespace PermissionRule

open Resolving

variable {t : Tenant} {l l' : Lookups} (rule : PermissionRule) (user acting : Uuid)

/-- What is decided about a principal does not depend on what was looked up before. -/
lemma map_fst_on_isPermitted (hl : l.roles.Reflects t.roles) (hl' : l'.roles.Reflects t.roles)
    (hd : t.roles.DistinctNames) (roles : SortedSet String) :
    (on t (rule.isPermitted acting roles) l).map Prod.fst =
      (on t (rule.isPermitted acting roles) l').map Prod.fst :=
  (rule.decides_isPermitted acting hl hd roles).eq (rule.decides_isPermitted acting hl' hd roles)

/-- A verdict of permission is the decision, with an error for each request if it is to deny. -/
lemma map_fst_on_permit (roles : SortedSet String) (requests : List Change) (done : GrantChanges) :
    (on t (rule.permit acting roles requests done) l).map Prod.fst =
      ((on t (rule.isPermitted acting roles) l).map Prod.fst).map fun decision =>
        if decision.isPermitted then .applied done
        else .rejected (.notPermitted acting roles.toList)
          (requests.map (·.refuse .permissionDenied)) := by
  unfold permit
  rw [on_bind]
  rcases on t (rule.isPermitted acting roles) l with e | ⟨decision, l₁⟩
  · rfl
  · change (on t (if decision.isPermitted then _ else _) l₁).map Prod.fst = _
    rw [on_ite]
    change _ = Except.ok (if decision.isPermitted then _ else _)
    split <;> rfl

lemma sameEnd_permit (hl : l.roles.Reflects t.roles) (hl' : l'.roles.Reflects t.roles)
    (hd : t.roles.DistinctNames) (roles : SortedSet String) {requests requests' : List Change}
    (hrequests : List.Forall₂ t.Renamed requests requests') (done : GrantChanges) :
    SameEnd Eq t.SameVerdict ((on t (rule.permit acting roles requests done) l).map Prod.fst)
      ((on t (rule.permit acting roles requests' done) l').map Prod.fst) := by
  rw [map_fst_on_permit, map_fst_on_permit, rule.map_fst_on_isPermitted acting hl hl' hd]
  rcases (on t (rule.isPermitted acting roles) l').map Prod.fst with e | decision
  · exact .error rfl
  · refine .ok ?_
    dsimp only
    split
    · exact .applied done
    · exact .rejected (.notPermitted acting roles.toList)
        (List.rel_map (fun _ _ hc => hc.refuse .permissionDenied) hrequests)

/-- Whether something is applied does not depend on what was requested. -/
lemma applied_permit_iff (hl : l.roles.Reflects t.roles) (hl' : l'.roles.Reflects t.roles)
    (hd : t.roles.DistinctNames) (roles : SortedSet String) (requests requests' : List Change)
    (done done' : GrantChanges) :
    (on t (rule.permit acting roles requests done) l).map Prod.fst = .ok (.applied done') ↔
      (on t (rule.permit acting roles requests' done) l').map Prod.fst = .ok (.applied done') := by
  rw [map_fst_on_permit, map_fst_on_permit, rule.map_fst_on_isPermitted acting hl hl' hd]
  rcases (on t (rule.isPermitted acting roles) l').map Prod.fst with e | decision
  · rfl
  · dsimp only [Except.map]
    split
    · rfl
    · simp

lemma sameEnd_judgeBatch {current : List Grant} {changes changes' : List Change}
    {batch batch' : List ResolvedChange} (hl : l.Serves t changes (current.map (·.role)))
    (hl' : l'.Serves t changes' (current.map (·.role))) (hd : t.roles.DistinctNames)
    (h : List.Forall₂ t.RenamedResolved batch batch') :
    SameEnd Eq t.SameVerdict ((on t (rule.judgeBatch l user acting current batch) l).map Prod.fst)
      ((on t (rule.judgeBatch l' user acting current batch') l').map Prod.fst) := by
  have hheld : ∀ e ∈ current.map Grant.entitlement, l.roles.get? e.role = l'.roles.get? e.role :=
    fun e he => (get?_role_of_held hl e he).trans (get?_role_of_held hl' e he).symm
  have hjudged := Tenant.sameEnd_judgeChanges hheld user h
  have hrequests : List.Forall₂ t.Renamed (batch.map (·.change)) (batch'.map (·.change)) :=
    List.rel_map (fun _ _ hr => hr.change) h
  unfold judgeBatch
  generalize judgeChanges l user (current.map Grant.entitlement) batch = judged at hjudged
  generalize judgeChanges l' user (current.map Grant.entitlement) batch' = judged' at hjudged
  cases hjudged with
  | error he => exact .error he
  | @ok effects effects' heffects =>
    have herrors := Tenant.forall₂_errors heffects
    have hremovals : List.Forall₂ t.RenamedResolved (batch.filter (·.change.op != .add))
        (batch'.filter (·.change.op != .add)) := by
      refine List.rel_filter (fun r r' hr => ?_) h
      have hop : r.change.op = r'.change.op := hr.change.op
      simp only [hop]
    dsimp only
    rw [isEmpty_eq_of_forall₂ herrors, Tenant.applyEffects_eq_of_renamed heffects,
      Tenant.flatMap_roleNames_eq_of_renamed heffects]
    simp only [on_ite]
    split
    · exact .ok (.rejected (.invalidOperations herrors) herrors)
    · split
      · exact .ok (.rejected (.leavesNothing user)
          (List.rel_map (fun _ _ hr => hr.change.refuse .wouldRemoveAll) hremovals))
      · split
        · exact .ok (.applied _)
        · exact rule.sameEnd_permit acting hl.roles hl'.roles hd _ hrequests _

section Renamed

variable (hd : t.roles.DistinctNames)

include hd

/-- A batch with accounts named in another way ends in the same way. -/
lemma sameEnd_reconcile (current : List Grant) {changes changes' : List Change}
    (h : List.Forall₂ t.Renamed changes changes') :
    SameEnd Eq t.SameVerdict (((rule.reconcile user acting current changes).run' ∅).on t)
      (((rule.reconcile user acting current changes').run' ∅).on t) := by
  rw [on_run', on_run']
  rcases changes with _ | ⟨c, rest⟩
  · obtain rfl := List.forall₂_nil_left_iff.mp h
    exact .ok (.applied _)
  have hne' : changes' ≠ [] := fun hnil => by
    rw [hnil] at h
    cases h
  by_cases hunknown : ∃ c' ∈ c :: rest, t.Unknown c'
  · obtain ⟨l, hon⟩ := rule.on_reconcile_of_unknown user acting current hd hunknown
    obtain ⟨l', hon'⟩ := rule.on_reconcile_of_unknown user acting current hd
      ((Tenant.exists_unknown_iff h).mp hunknown)
    have herrors := Tenant.forall₂_missingReferencesOf h
    rw [hon, hon']
    exact .ok (.rejected (.unknownReferences herrors) herrors)
  · have hknown : ∀ c' ∈ c :: rest, ¬t.Unknown c' := fun c' hc hu => hunknown ⟨c', hc, hu⟩
    have hknown' : ∀ c' ∈ changes', ¬t.Unknown c' := fun c' hc hu =>
      hunknown ((Tenant.exists_unknown_iff h).mpr ⟨c', hc, hu⟩)
    obtain ⟨l, hl, hon⟩ := rule.on_reconcile_of_known user acting current hd (by simp) hknown
    obtain ⟨l', hl', hon'⟩ := rule.on_reconcile_of_known user acting current hd hne' hknown'
    rw [hon, hon']
    exact rule.sameEnd_judgeBatch user acting hl hl' hd
      (Tenant.forall₂_byPriority (Tenant.forall₂_resolveAll h))

/-- First grants, for whoever grants them, are judged by what the catalogues say. -/
lemma on_initial (acting : Option Uuid) (requested : List RequestedGrant) :
    ∃ l, l.roles.Reflects t.roles ∧ on t (rule.initial user acting requested) ∅ =
      let changes := requested.map RequestedGrant.toChange
      let grants := distinctGrants ((t.resolveAll changes).filterMap (grantOf? user))
      let roles := SortedSet.ofList (((t.resolveAll changes).filterMap (·.role)).map Prod.snd)
      if !(t.missingReferencesOf changes).isEmpty then
        .ok (.rejected (.unknownReferences (t.missingReferencesOf changes))
          (t.missingReferencesOf changes), l)
      else if grants.isEmpty then .ok (.rejected (.leavesNothing user) [], l)
      else match acting with
        | none => .ok (.applied ⟨grants, grants, []⟩, l)
        | some acting => on t (rule.permit acting roles changes ⟨grants, grants, []⟩) l := by
  obtain ⟨l, hon, hl⟩ := on_resolveReferences hd (requested.map RequestedGrant.toChange) []
  refine ⟨l, hl.roles, ?_⟩
  unfold initial
  dsimp only
  rw [on_bind_of_ok hon, on_get_bind, hl.referenceErrors_eq, hl.resolvedChanges_eq]
  simp only [on_ite]
  cases acting <;> rfl

/-- First grants with accounts named in another way end in the same way. -/
lemma sameEnd_initial (acting : Option Uuid) {requested requested' : List RequestedGrant}
    (h : List.Forall₂ t.RenamedRequest requested requested') :
    SameEnd Eq t.SameVerdict (((rule.initial user acting requested).run' ∅).on t)
      (((rule.initial user acting requested').run' ∅).on t) := by
  have hchanges : List.Forall₂ t.Renamed (requested.map RequestedGrant.toChange)
      (requested'.map RequestedGrant.toChange) :=
    List.rel_map (fun _ _ hq => hq.toChange) h
  have hresolved := Tenant.forall₂_resolveAll hchanges
  have herrors := Tenant.forall₂_missingReferencesOf hchanges
  have hgrants := filterMap_eq_of_forall₂ hresolved fun r r' hr => hr.grantOf?_eq user
  have hroles := filterMap_eq_of_forall₂ hresolved fun r r' hr => hr.role
  obtain ⟨l, hl, hon⟩ := rule.on_initial user hd acting requested
  obtain ⟨l', hl', hon'⟩ := rule.on_initial user hd acting requested'
  rw [on_run', on_run', hon, hon']
  dsimp only
  rw [isEmpty_eq_of_forall₂ herrors, hgrants, hroles]
  split
  · exact .ok (.rejected (.unknownReferences herrors) herrors)
  · split
    · exact .ok (.rejected (.leavesNothing user) .nil)
    · cases acting with
      | none => exact .ok (.applied _)
      | some acting => exact rule.sameEnd_permit acting hl hl' hd _ hchanges _

end Renamed

end PermissionRule

end Provisioning
