import Provisioning.Operations
import Provisioning.Proofs.Grant.Judge
import Provisioning.Proofs.Resolving

/-!
What is left by applied batches.

Whatever is known of roles and accounts, a verdict that applies a batch replaces the grants of its
user by grants of that user without repetition (`Tidy`). There are some if there were some before,
or if anything was asked for.
-/

namespace Provisioning

open Resolving

/-- Grants of one user, none of them twice. -/
structure Tidy (user : Uuid) (gs : List Grant) : Prop where
  nodup : (gs.map Grant.entitlement).Nodup
  own : ∀ g ∈ gs, g.user = user

section Outcome

variable {user : Uuid} {gs : List Grant} {batch : List ResolvedChange}

lemma tidy_distinctGrants (h : ∀ g ∈ gs, g.user = user) : Tidy user (distinctGrants gs) :=
  ⟨nodup_distinctGrants gs, fun g hg => h g (mem_of_mem_distinctGrants hg)⟩

/-- A batch whose changes fit keeps grants tidy. -/
lemma Tidy.outcomeOf (h : Tidy user gs) (hfits : ∀ r ∈ batch, r.Fits (gs.map Grant.entitlement)) :
    Tidy user (outcomeOf user gs (byPriority batch)).grants := by
  refine ⟨nodup_outcomeOf user h.nodup hfits, fun g hg => ?_⟩
  rcases mem_outcomeOf hfits hg with hg | hg
  · exact h.own g hg
  · obtain ⟨r, -, e, -, rfl⟩ := mem_additions.mp hg
    rfl

/-- A batch that fits where nothing is held adds something. -/
lemma outcomeOf_nil_ne_nil (hne : batch ≠ []) (hfits : ∀ r ∈ batch, r.Fits []) :
    (outcomeOf user [] (byPriority batch)).grants ≠ [] := by
  obtain ⟨r, hr⟩ := List.exists_mem_of_ne_nil _ hne
  have hadd : r.change.op = .add := by
    cases hfits r hr with
    | removeOne _ _ mem => cases mem
    | removeAll _ _ mem => cases mem
    | add op => exact op
  obtain ⟨e, he, -⟩ := (hfits r hr).given?_eq hadd
  unfold outcomeOf
  rw [carryOut_byPriority hfits]
  exact List.ne_nil_of_mem
    (List.mem_append_right _ (mem_additions.mpr ⟨r, mem_byPriority.mpr hr, e, he, rfl⟩))

end Outcome

/-! ### Verdicts -/

section Verdict

variable {t : Tenant} {l l₀ l' : Lookups} {rule : PermissionRule} {user acting : Uuid}
  {gs : List Grant} {batch : List ResolvedChange} {changes : List Change} {done : GrantChanges}

lemma applied_pure {after : GrantChanges}
    (h : on t (pure (.applied after) : Resolving Reconciliation) l = .ok (.applied done, l')) :
    done = after := by
  cases h
  rfl

lemma applied_permit {roles : SortedSet String} {requests : List Change} {after : GrantChanges}
    (h : on t (rule.permit acting roles requests after) l = .ok (.applied done, l')) :
    done = after := by
  obtain ⟨decision, l₁, -, h⟩ := on_bind_eq_ok.mp h
  split at h
  next => exact applied_pure h
  next => cases h

/-- Changes that were applied fit what was held, and leave something if there was something. -/
lemma applied_judgeBatch
    (h : on t (rule.judgeBatch l₀ user acting gs (byPriority batch)) l = .ok (.applied done, l')) :
    (∀ r ∈ batch, r.Fits (gs.map Grant.entitlement)) ∧
      done = outcomeOf user gs (byPriority batch) ∧ (gs ≠ [] → done.grants ≠ []) := by
  unfold PermissionRule.judgeBatch at h
  split at h
  next => cases h
  next effects heffects =>
    dsimp only at h
    split at h
    next => cases h
    next herrors =>
      have hfits := (errors_eq_nil heffects).mp (by simpa using herrors)
      have hfits' : ∀ r ∈ batch, r.Fits (gs.map Grant.entitlement) := fun r hr =>
        hfits r (mem_byPriority.mpr hr)
      rw [applyEffects_eq heffects hfits'] at h
      split at h
      next => cases h
      next hguard =>
        have hdone : done = outcomeOf user gs (byPriority batch) := by
          split at h
          next => exact applied_pure h
          next => exact applied_permit h
        refine ⟨hfits', hdone, fun hne hnil => hguard ?_⟩
        rw [hdone] at hnil
        simp [hne, hnil]

lemma exists_resolveChange (h : referenceErrors l changes = []) {c : Change} (hc : c ∈ changes) :
    ∃ r, r ∈ resolvedChanges l changes := by
  have hnil := List.flatMap_eq_nil_iff.mp h c hc
  rcases hr : resolveChange l c with errors | r
  · rw [hr] at hnil
    unfold resolveChange at hr
    split at hr <;> cases hr <;> cases hnil
  · exact ⟨r, List.mem_filterMap.mpr ⟨c, hc, by rw [hr]; rfl⟩⟩

/-- A batch that was applied is empty, or fits what was held. -/
lemma applied_of_reconcile {current : List Grant}
    (h : on t (rule.reconcile user acting current changes) l = .ok (.applied done, l')) :
    changes = [] ∧ done.grants = distinctGrants current ∨
      ∃ batch, batch ≠ [] ∧
        (∀ r ∈ batch, r.Fits ((distinctGrants current).map Grant.entitlement)) ∧
        done = outcomeOf user (distinctGrants current) (byPriority batch) ∧
        (distinctGrants current ≠ [] → done.grants ≠ []) := by
  unfold PermissionRule.reconcile at h
  dsimp only at h
  split at h
  next hnil =>
    refine Or.inl ⟨List.isEmpty_iff.mp hnil, ?_⟩
    rw [applied_pure h]
  next hne =>
    obtain ⟨-, l₁, -, h⟩ := on_bind_eq_ok.mp h
    rw [on_get_bind] at h
    split at h
    next herrors =>
      obtain ⟨c, hc⟩ := List.exists_mem_of_ne_nil _ (mt List.isEmpty_iff.mpr hne)
      obtain ⟨r, hr⟩ := exists_resolveChange (List.isEmpty_iff.mp herrors) hc
      exact Or.inr ⟨_, List.ne_nil_of_mem hr, applied_judgeBatch h⟩
    next => cases h

/-- First grants that were applied are some, and not more than was asked for. -/
lemma applied_of_initial {acting : Option Uuid} {requested : List RequestedGrant}
    (h : on t (rule.initial user acting requested) l = .ok (.applied done, l')) :
    done.grants ≠ [] ∧ Tidy user done.grants := by
  unfold PermissionRule.initial at h
  dsimp only at h
  obtain ⟨-, l₁, -, h⟩ := on_bind_eq_ok.mp h
  rw [on_get_bind] at h
  generalize hgs : distinctGrants ((resolvedChanges l₁
    (requested.map RequestedGrant.toChange)).filterMap (PermissionRule.grantOf? user)) = gs at h
  split at h
  next => cases h
  next =>
    split at h
    next => cases h
    next hne =>
      have hdone : done = ⟨gs, gs, []⟩ := by
        split at h
        next => exact applied_pure h
        next => exact applied_permit h
      rw [hdone]
      refine ⟨mt List.isEmpty_iff.mpr hne, hgs ▸ tidy_distinctGrants fun g hg => ?_⟩
      obtain ⟨r, -, hr⟩ := List.mem_filterMap.mp hg
      obtain ⟨role, -, rfl⟩ := Option.map_eq_some_iff.mp hr
      rfl

end Verdict

end Provisioning
