import Provisioning.Operations
import Provisioning.Proofs.Agreement
import Provisioning.Proofs.Grant.Judge
import Provisioning.Proofs.Session

/-!
The order of a batch does not matter.

Two batches of the same changes, in any order and with any repetitions, have verdicts that differ at
most in the order of what they list (`Reconciliation.Alike`). What a batch names is looked up in
order and without repetition, so the same questions are asked; every change is judged on its own, so
the effects are the same; and the rest looks at effects only as a set.
-/

namespace Provisioning

/-- The lists have the same elements, in any order and with any repetitions. -/
def SameElements {α : Type} (as bs : List α) : Prop := ∀ a, a ∈ as ↔ a ∈ bs

/-- Rejections that differ at most in the order of the changes that they list. -/
inductive Rejection.Alike : Rejection → Rejection → Prop where
  | unknownReferences {es es' : List ChangeError} (h : SameElements es es') :
    Alike (.unknownReferences es) (.unknownReferences es')
  | invalidOperations {es es' : List ChangeError} (h : SameElements es es') :
    Alike (.invalidOperations es) (.invalidOperations es')
  | leavesNothing (user : Uuid) : Alike (.leavesNothing user) (.leavesNothing user)
  | notPermitted (acting : Uuid) (roles : List String) :
    Alike (.notPermitted acting roles) (.notPermitted acting roles)

/-- Verdicts that differ at most in the order of additions and of refused changes. -/
inductive Reconciliation.Alike : Reconciliation → Reconciliation → Prop where
  | applied (kept removed : List Grant) {added added' : List Grant} (h : added.Perm added') :
    Alike (.applied ⟨kept ++ added, added, removed⟩) (.applied ⟨kept ++ added', added', removed⟩)
  | rejected {r r' : Rejection} {es es' : List ChangeError} (h : r.Alike r')
    (errors : SameElements es es') : Alike (.rejected r es) (.rejected r' es')

/-- Failures that differ at most in which roles of a principal are named. -/
inductive Failure.Alike : Failure → Failure → Prop where
  | same (e : Failure) : Alike e e
  | unresolvedRoles (principal : Uuid) (roles roles' : List String) :
    Alike (.unresolvedRoles principal roles) (.unresolvedRoles principal roles')

namespace SameElements

variable {α β : Type} {as bs : List α}

lemma refl (as : List α) : SameElements as as := fun _ => Iff.rfl

lemma eq_nil_iff (h : SameElements as bs) : as = [] ↔ bs = [] := by
  simp only [List.eq_nil_iff_forall_not_mem, h _]

lemma isEmpty_eq (h : SameElements as bs) : as.isEmpty = bs.isEmpty := by
  rw [Bool.eq_iff_iff, List.isEmpty_iff, List.isEmpty_iff, h.eq_nil_iff]

lemma map (h : SameElements as bs) (f : α → β) : SameElements (as.map f) (bs.map f) := fun b => by
  simp only [List.mem_map, h _]

lemma filter (h : SameElements as bs) (p : α → Bool) :
    SameElements (as.filter p) (bs.filter p) := fun a => by
  simp only [List.mem_filter, h _]

lemma filterMap (h : SameElements as bs) (f : α → Option β) :
    SameElements (as.filterMap f) (bs.filterMap f) := fun b => by
  simp only [List.mem_filterMap, h _]

lemma flatMap (h : SameElements as bs) (f : α → List β) :
    SameElements (as.flatMap f) (bs.flatMap f) := fun b => by
  simp only [List.mem_flatMap, h _]

lemma distinctBy [DecidableEq α] (h : SameElements as bs) :
    (distinctBy id [] as).Perm (distinctBy id [] bs) := by
  rw [List.perm_ext_iff_of_nodup nodup_distinctBy_id nodup_distinctBy_id]
  intro a
  rw [mem_distinctBy_id, mem_distinctBy_id, h a]

end SameElements

namespace Memo

variable {α : Type} (m : Memo α)

lemma unseenIds_congr {ids ids' : List Uuid} (h : SameElements ids ids') :
    m.unseenIds ids = m.unseenIds ids' :=
  congrArg SortedSet.toList (SortedSet.ofList_congr (h.filter _))

lemma unseenNames_congr {names names' : List String} (h : SameElements names names') :
    m.unseenNames names = m.unseenNames names' :=
  congrArg SortedSet.toList (SortedSet.ofList_congr (h.filter _))

end Memo

open Resolving

variable {l : Lookups} {user acting : Uuid} {current : List Grant} {rule : PermissionRule}

/-! ### Looking up -/

section References

variable {changes changes' : List Change} (h : SameElements changes changes')

include h

/-- The same is asked, and the same is learnt. -/
lemma resolveReferences_congr (ids : List Uuid) :
    resolveReferences changes ids = resolveReferences changes' ids := by
  have hrefs := h.map fun c => AccountRef.ofText c.account
  have hids := fun m : Memo Account => m.unseenIds_congr (hrefs.filterMap AccountRef.id?)
  have hnames := fun m : Memo Account => m.unseenNames_congr (hrefs.filterMap AccountRef.name?)
  have hroles := fun m : Memo Role =>
    m.unseenNames_congr (h.filterMap fun c => c.target.roleName)
  unfold resolveReferences
  simp only [hids, hnames, hroles]

lemma referenceErrors_congr (l : Lookups) :
    SameElements (referenceErrors l changes) (referenceErrors l changes') := h.flatMap _

lemma byPriority_resolvedChanges_congr (l : Lookups) :
    SameElements (byPriority (resolvedChanges l changes))
      (byPriority (resolvedChanges l changes')) := fun r => by
  rw [mem_byPriority, mem_byPriority]
  exact h.filterMap _ r

end References

/-! ### Judging -/

section Judging

variable {batch batch' : List ResolvedChange} {effects effects' : List Effect}

lemma judgeChanges_congr (l : Lookups) (user : Uuid) (held : List Entitlement)
    (h : SameElements batch batch') :
    SameEnd Failure.Alike SameElements (judgeChanges l user held batch)
      (judgeChanges l user held batch') := by
  -- a batch is judged if each of its changes is, so both batches are or none is
  have hiff : (∃ effects, judgeChanges l user held batch = .ok effects) ↔
      ∃ effects, judgeChanges l user held batch' = .ok effects := by
    rw [exists_judgeChanges_iff, exists_judgeChanges_iff]
    exact forall_congr' fun r => by rw [h r]
  rcases he : judgeChanges l user held batch with e | effects <;>
    rcases he' : judgeChanges l user held batch' with e' | effects'
  · obtain ⟨_, -, -, rfl⟩ := judgeChanges_error he
    obtain ⟨_, -, -, rfl⟩ := judgeChanges_error he'
    exact .error (.unresolvedRoles user _ _)
  · rw [he, he'] at hiff
    simp at hiff
  · rw [he, he'] at hiff
    simp at hiff
  · refine .ok fun effect => ?_
    rw [mem_effects he, mem_effects he']
    simp only [h _]

/-- What effects do depends on them as a set. -/
lemma applyEffects_congr (user : Uuid) (current : List Grant) (h : SameElements effects effects') :
    ∃ kept removed added added', added.Perm added' ∧
      applyEffects user current effects = ⟨kept ++ added, added, removed⟩ ∧
      applyEffects user current effects' = ⟨kept ++ added', added', removed⟩ := by
  have htaken : ∀ g : Grant, (effects'.flatMap Effect.taken).contains g.entitlement =
      (effects.flatMap Effect.taken).contains g.entitlement := fun g => by
    rw [Bool.eq_iff_iff, List.contains_iff_mem, List.contains_iff_mem]
    exact (h.flatMap Effect.taken g.entitlement).symm
  refine ⟨_, _, _, _, (h.filterMap Effect.given?).distinctBy.map (·.grantTo user), rfl, ?_⟩
  unfold applyEffects
  simp only [htaken]

end Judging

/-! ### Verdicts -/

section Verdict

variable {batch batch' : List ResolvedChange}

/-- Permission is asked for the same roles, and its answer does not depend on the batch. -/
lemma agree_permit {roles : SortedSet String} {requests requests' : List Change}
    {done done' : GrantChanges} (hrequests : SameElements requests requests')
    (hdone : (Reconciliation.applied done).Alike (.applied done')) :
    Agree Failure.Alike Reconciliation.Alike (rule.permit acting roles requests done)
      (rule.permit acting roles requests' done') := by
  refine (agree_refl .same (rule.isPermitted acting roles)).bind ?_
  rintro decision _ rfl
  refine Agree.ite Iff.rfl (agree_pure hdone) (agree_pure ?_)
  exact .rejected (.notPermitted acting roles.toList) (hrequests.map _)

lemma agree_judgeBatch (h : SameElements batch batch') :
    Agree Failure.Alike Reconciliation.Alike (rule.judgeBatch l user acting current batch)
      (rule.judgeBatch l user acting current batch') := by
  have hjudged := judgeChanges_congr l user (current.map Grant.entitlement) h
  unfold PermissionRule.judgeBatch
  generalize judgeChanges l user (current.map Grant.entitlement) batch = judged at hjudged
  generalize judgeChanges l user (current.map Grant.entitlement) batch' = judged' at hjudged
  cases hjudged with
  | error he => exact agree_fail he
  | @ok effects effects' heffects =>
    obtain ⟨kept, removed, added, added', hperm, hdone, hdone'⟩ :=
      applyEffects_congr user current heffects
    have herrors := heffects.filterMap Effect.error?
    have hroles : SortedSet.ofList (effects.flatMap Effect.roleNames) =
        SortedSet.ofList (effects'.flatMap Effect.roleNames) :=
      SortedSet.ofList_congr (heffects.flatMap _)
    have halike : (Reconciliation.applied ⟨kept ++ added, added, removed⟩).Alike
        (.applied ⟨kept ++ added', added', removed⟩) := .applied kept removed hperm
    dsimp only
    rw [hdone, hdone', herrors.isEmpty_eq, hroles, (hperm.append_left kept).isEmpty_eq]
    refine Agree.ite Iff.rfl ?_ (Agree.ite Iff.rfl ?_ (Agree.ite Iff.rfl (agree_pure halike) ?_))
    · exact agree_pure (.rejected (.invalidOperations herrors) herrors)
    · exact agree_pure (.rejected (.leavesNothing user) ((h.filter _).map _))
    · exact agree_permit (h.map _) halike

/-- Changes in any order, with any repetitions, ask the same and have the same verdict. -/
lemma agree_reconcile {changes changes' : List Change} (h : SameElements changes changes') :
    Agree Failure.Alike Reconciliation.Alike (rule.reconcile user acting current changes)
      (rule.reconcile user acting current changes') := by
  have hself : (Reconciliation.applied ⟨distinctGrants current, [], []⟩).Alike
      (.applied ⟨distinctGrants current, [], []⟩) := by
    simpa using Reconciliation.Alike.applied (distinctGrants current) [] (List.Perm.refl [])
  unfold PermissionRule.reconcile
  dsimp only
  rw [h.isEmpty_eq, resolveReferences_congr h]
  refine Agree.ite Iff.rfl (agree_pure hself) ((agree_refl .same _).bind fun _ _ _ =>
    (agree_refl .same _).bind ?_)
  rintro l _ rfl
  have herrors := referenceErrors_congr h l
  rw [herrors.isEmpty_eq]
  refine Agree.ite Iff.rfl (agree_judgeBatch (byPriority_resolvedChanges_congr h l)) ?_
  exact agree_pure (.rejected (.unknownReferences herrors) herrors)

/-- **The order of a batch does not matter**, nor do repetitions: a directory is asked the same, in
the same order, whatever it leaves unanswered, and the verdicts are alike. -/
theorem Directory.reconcile_of_sameElements (d : Directory) (name : String) (p : Policy)
    (user acting : Uuid) (current : List Grant) {changes changes' : List Change}
    (h : SameElements changes changes') :
    (d.run name (p.reconcile user acting current changes)).1 =
        (d.run name (p.reconcile user acting current changes')).1 ∧
      SameEnd Failure.Alike Reconciliation.Alike
        (d.run name (p.reconcile user acting current changes)).2
        (d.run name (p.reconcile user acting current changes')).2 :=
  d.run_agree ((agree_reconcile h).run' ∅) .same name

/-- Two roles are given in one order and, one of them twice, in the other. -/
theorem Directory.reconcile_of_sameElements_sample :
    SameElements [Change.add "main" "reader", .add "main" "writer"]
        [.add "main" "writer", .add "main" "reader", .add "main" "writer"] ∧
      SameEnd Failure.Alike Reconciliation.Alike
        (.ok (.applied ⟨[⟨6, 1, 2⟩, ⟨6, 1, 3⟩], [⟨6, 1, 2⟩, ⟨6, 1, 3⟩], []⟩))
        (.ok (.applied ⟨[⟨6, 1, 3⟩, ⟨6, 1, 2⟩], [⟨6, 1, 3⟩, ⟨6, 1, 2⟩], []⟩)) := by
  have hsame : SameElements [Change.add "main" "reader", .add "main" "writer"]
      [.add "main" "writer", .add "main" "reader", .add "main" "writer"] := fun c => by
    simp only [List.mem_cons, List.not_mem_nil, or_false]
    tauto
  have hrun : (sample.run "acme" (Policy.standard.reconcile 6 5 []
      [.add "main" "reader", .add "main" "writer"])).2 =
      .ok (.applied ⟨[⟨6, 1, 2⟩, ⟨6, 1, 3⟩], [⟨6, 1, 2⟩, ⟨6, 1, 3⟩], []⟩) := by decide
  have hrun' : (sample.run "acme" (Policy.standard.reconcile 6 5 []
      [.add "main" "writer", .add "main" "reader", .add "main" "writer"])).2 =
      .ok (.applied ⟨[⟨6, 1, 3⟩, ⟨6, 1, 2⟩], [⟨6, 1, 3⟩, ⟨6, 1, 2⟩], []⟩) := by decide
  refine ⟨hsame, ?_⟩
  rw [← hrun, ← hrun']
  exact (Directory.reconcile_of_sameElements sample "acme" .standard 6 5 [] hsame).2

end Verdict

end Provisioning
