import Mathlib.Data.List.Nodup
import Provisioning.Grant.Reconcile

/-!
Lists without later repetitions.

`distinctBy` keeps the first element with each image; so does `distinctGrants` with the entitlement
of each grant.
-/

namespace Provisioning

variable {α β : Type} [BEq β] [LawfulBEq β] {f : α → β} {seen : List β} {as : List α}

lemma distinctBy_cons_of_mem {a : α} (h : f a ∈ seen) :
    distinctBy f seen (a :: as) = distinctBy f seen as :=
  if_pos (List.contains_iff_mem.mpr h)

lemma distinctBy_cons_of_not_mem {a : α} (h : f a ∉ seen) :
    distinctBy f seen (a :: as) = a :: distinctBy f (f a :: seen) as :=
  if_neg (mt List.contains_iff_mem.mp h)

lemma mem_of_mem_distinctBy {a : α} (h : a ∈ distinctBy f seen as) : a ∈ as ∧ f a ∉ seen := by
  induction as generalizing seen with
  | nil => cases h
  | cons b rest ih =>
    by_cases hb : f b ∈ seen
    · rw [distinctBy_cons_of_mem hb] at h
      obtain ⟨hmem, hseen⟩ := ih h
      exact ⟨List.mem_cons_of_mem b hmem, hseen⟩
    · rw [distinctBy_cons_of_not_mem hb] at h
      rcases List.mem_cons.mp h with rfl | h
      · exact ⟨List.mem_cons_self, hb⟩
      · obtain ⟨hmem, hseen⟩ := ih h
        exact ⟨List.mem_cons_of_mem b hmem, fun hs => hseen (List.mem_cons_of_mem _ hs)⟩

/-- The images that were not seen before are all kept. -/
lemma mem_map_distinctBy {b : β} :
    b ∈ (distinctBy f seen as).map f ↔ b ∈ as.map f ∧ b ∉ seen := by
  induction as generalizing seen with
  | nil => simp [distinctBy]
  | cons a rest ih =>
    by_cases ha : f a ∈ seen
    · rw [distinctBy_cons_of_mem ha, ih]
      grind
    · rw [distinctBy_cons_of_not_mem ha, List.map_cons, List.mem_cons, ih]
      grind

lemma nodup_map_distinctBy : ((distinctBy f seen as).map f).Nodup := by
  induction as generalizing seen with
  | nil => exact List.nodup_nil
  | cons a rest ih =>
    by_cases ha : f a ∈ seen
    · rw [distinctBy_cons_of_mem ha]
      exact ih
    · rw [distinctBy_cons_of_not_mem ha, List.map_cons, List.nodup_cons]
      refine ⟨fun h => ?_, ih⟩
      exact (mem_map_distinctBy.mp h).2 List.mem_cons_self

/-- Where nothing is met twice, or was seen before, everything is kept. -/
lemma distinctBy_of_nodup (h : (as.map f).Nodup) (hseen : ∀ a ∈ as, f a ∉ seen) :
    distinctBy f seen as = as := by
  induction as generalizing seen with
  | nil => rfl
  | cons a rest ih =>
    rw [List.map_cons, List.nodup_cons] at h
    rw [distinctBy_cons_of_not_mem (hseen a List.mem_cons_self), ih h.2]
    intro b hb hmem
    rcases List.mem_cons.mp hmem with heq | hmem
    · exact h.1 (heq ▸ List.mem_map_of_mem hb)
    · exact hseen b (List.mem_cons_of_mem a hb) hmem

section Id

variable [BEq α] [LawfulBEq α]

@[simp] lemma mem_distinctBy_id {a : α} : a ∈ distinctBy id [] as ↔ a ∈ as := by
  have hmap : a ∈ (distinctBy id [] as).map id ↔ a ∈ as.map id ∧ a ∉ [] := mem_map_distinctBy
  simpa using hmap

lemma nodup_distinctBy_id : (distinctBy id [] as).Nodup := by
  have hmap : ((distinctBy id [] as).map id).Nodup := nodup_map_distinctBy
  rwa [List.map_id] at hmap

end Id

/-- What was seen before matters only as far as it is met. -/
lemma distinctBy_congr {seen' : List β} (h : ∀ a ∈ as, f a ∈ seen ↔ f a ∈ seen') :
    distinctBy f seen as = distinctBy f seen' as := by
  induction as generalizing seen seen' with
  | nil => rfl
  | cons a rest ih =>
    have ha := h a List.mem_cons_self
    have hrest : ∀ b ∈ rest, f b ∈ seen ↔ f b ∈ seen' := fun b hb =>
      h b (List.mem_cons_of_mem a hb)
    by_cases hs : f a ∈ seen
    · rw [distinctBy_cons_of_mem hs, distinctBy_cons_of_mem (ha.mp hs), ih hrest]
    · have hcons : ∀ b ∈ rest, f b ∈ f a :: seen ↔ f b ∈ f a :: seen' := fun b hb => by
        rw [List.mem_cons, List.mem_cons, hrest b hb]
      rw [distinctBy_cons_of_not_mem hs, distinctBy_cons_of_not_mem (mt ha.mpr hs), ih hcons]

lemma distinctBy_map {γ : Type} (g : γ → α) (cs : List γ) :
    distinctBy f seen (cs.map g) = (distinctBy (f ∘ g) seen cs).map g := by
  induction cs generalizing seen with
  | nil => rfl
  | cons c rest ih =>
    rw [List.map_cons]
    by_cases hc : f (g c) ∈ seen
    · rw [distinctBy_cons_of_mem hc, distinctBy_cons_of_mem (f := f ∘ g) hc, ih]
    · rw [distinctBy_cons_of_not_mem hc, distinctBy_cons_of_not_mem (f := f ∘ g) hc, ih,
        List.map_cons]
      rfl

/-- What has the image of something before it is dropped. -/
lemma distinctBy_append_cons {a : α} (h : f a ∈ seen ∨ f a ∈ as.map f) (bs : List α) :
    distinctBy f seen (as ++ a :: bs) = distinctBy f seen (as ++ bs) := by
  induction as generalizing seen with
  | nil => exact distinctBy_cons_of_mem (h.resolve_right List.not_mem_nil)
  | cons b rest ih =>
    rw [List.map_cons, List.mem_cons] at h
    rw [List.cons_append, List.cons_append]
    by_cases hb : f b ∈ seen
    · rw [distinctBy_cons_of_mem hb, distinctBy_cons_of_mem hb]
      refine ih ?_
      rcases h with h | heq | h
      · exact Or.inl h
      · exact Or.inl (heq ▸ hb)
      · exact Or.inr h
    · rw [distinctBy_cons_of_not_mem hb, distinctBy_cons_of_not_mem hb]
      refine congrArg (b :: ·) (ih ?_)
      rcases h with h | heq | h
      · exact Or.inl (List.mem_cons_of_mem _ h)
      · exact Or.inl (heq ▸ List.mem_cons_self)
      · exact Or.inr h

/-! ### Grants -/

variable {gs : List Grant}

lemma mem_of_mem_distinctGrants {g : Grant} (h : g ∈ distinctGrants gs) : g ∈ gs :=
  (mem_of_mem_distinctBy h).1

/-- No entitlement is met twice. -/
lemma nodup_distinctGrants (gs : List Grant) :
    ((distinctGrants gs).map Grant.entitlement).Nodup := nodup_map_distinctBy

lemma distinctGrants_of_nodup (h : (gs.map Grant.entitlement).Nodup) : distinctGrants gs = gs :=
  distinctBy_of_nodup h fun _ _ => List.not_mem_nil

lemma mem_map_distinctGrants {e : Entitlement} :
    e ∈ (distinctGrants gs).map Grant.entitlement ↔ e ∈ gs.map Grant.entitlement := by
  unfold distinctGrants
  rw [mem_map_distinctBy]
  simp

@[simp] lemma distinctGrants_eq_nil : distinctGrants gs = [] ↔ gs = [] := by
  constructor
  · intro h
    have hmem : ∀ e, e ∉ gs.map Grant.entitlement := fun e he => by
      simpa [h] using mem_map_distinctGrants.mpr he
    exact List.map_eq_nil_iff.mp (List.eq_nil_iff_forall_not_mem.mpr hmem)
  · rintro rfl
    rfl

end Provisioning
