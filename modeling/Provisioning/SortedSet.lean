/-!
Finite sets in order.

A set is the list of its members, strictly ascending. So it has exactly one representation, and
listing it gives the order in which it is shown; `ext_mem` says that membership is all there is.
-/

namespace Provisioning

universe u

variable {κ : Type u} [Ord κ] [Std.TransOrd κ] [Std.LawfulEqOrd κ]

/-- A finite set, its members listed in ascending order. -/
structure SortedSet (κ : Type u) [Ord κ] where
  /-- The members in ascending order. -/
  toList : List κ
  ascending : toList.Pairwise fun a b => compare a b = .lt

namespace SortedSet

instance [DecidableEq κ] : DecidableEq (SortedSet κ) := fun a b =>
  decidable_of_iff (a.toList = b.toList) (by cases a; cases b; simp)

instance : Membership κ (SortedSet κ) := ⟨fun s k => k ∈ s.toList⟩

instance [DecidableEq κ] (k : κ) (s : SortedSet κ) : Decidable (k ∈ s) :=
  inferInstanceAs (Decidable (k ∈ s.toList))

def empty : SortedSet κ := ⟨[], List.Pairwise.nil⟩

instance : EmptyCollection (SortedSet κ) := ⟨empty⟩

instance : Inhabited (SortedSet κ) := ⟨empty⟩

/-- Puts a member into its place. -/
def insertMember (k : κ) : List κ → List κ
  | [] => [k]
  | d :: rest =>
    match compare k d with
    | .lt => k :: d :: rest
    | .eq => d :: rest
    | .gt => d :: insertMember k rest

omit [Std.TransOrd κ] in
theorem mem_insertMember {k e : κ} {ds : List κ} :
    e ∈ insertMember k ds ↔ e = k ∨ e ∈ ds := by
  induction ds with
  | nil => simp [insertMember]
  | cons d rest ih =>
    simp only [insertMember]
    split
    next => simp
    next hc =>
      have hk : k = d := Std.LawfulEqOrd.eq_of_compare hc
      simp [hk]
    next => simp only [List.mem_cons, ih]; grind

theorem ascending_insertMember (k : κ) {ds : List κ}
    (h : ds.Pairwise fun a b => compare a b = .lt) :
    (insertMember k ds).Pairwise fun a b => compare a b = .lt := by
  induction ds with
  | nil => exact List.pairwise_singleton _ _
  | cons d rest ih =>
    obtain ⟨hd, hrest⟩ := List.pairwise_cons.1 h
    simp only [insertMember]
    split
    next hc =>
      refine List.pairwise_cons.2 ⟨fun e he => ?_, h⟩
      rcases List.mem_cons.1 he with rfl | he
      · exact hc
      · exact Std.TransCmp.lt_trans hc (hd e he)
    next => exact h
    next hc =>
      refine List.pairwise_cons.2 ⟨fun e he => ?_, ih hrest⟩
      rcases mem_insertMember.1 he with rfl | he
      · exact Std.OrientedCmp.lt_of_gt hc
      · exact hd e he

def insert (s : SortedSet κ) (k : κ) : SortedSet κ :=
  ⟨insertMember k s.toList, ascending_insertMember k s.ascending⟩

/-- The set of the members of a list. -/
def ofList (ks : List κ) : SortedSet κ := ks.foldr (fun k s => s.insert k) empty

def union (s t : SortedSet κ) : SortedSet κ := s.toList.foldr (fun k t => t.insert k) t

/-- The members of the first set that satisfy a condition. -/
def filter (s : SortedSet κ) (p : κ → Bool) : SortedSet κ :=
  ⟨s.toList.filter p, s.ascending.filter _⟩

def erase (s : SortedSet κ) (k : κ) : SortedSet κ := s.filter fun d => compare k d != .eq

def contains (s : SortedSet κ) (k : κ) : Bool := s.toList.any fun d => compare k d == .eq

def isEmpty (s : SortedSet κ) : Bool := s.toList.isEmpty

omit [Std.TransOrd κ] [Std.LawfulEqOrd κ] in
theorem mem_toList {s : SortedSet κ} {k : κ} : k ∈ s.toList ↔ k ∈ s := Iff.rfl

omit [Std.TransOrd κ] [Std.LawfulEqOrd κ] in
@[simp] theorem not_mem_empty (k : κ) : k ∉ (empty : SortedSet κ) := List.not_mem_nil

@[simp] theorem mem_insert {s : SortedSet κ} {k e : κ} : e ∈ s.insert k ↔ e = k ∨ e ∈ s :=
  mem_insertMember

@[simp] theorem mem_ofList {ks : List κ} {k : κ} : k ∈ ofList ks ↔ k ∈ ks := by
  induction ks with
  | nil => simp [ofList]
  | cons d ds ih => simpa [ofList] using or_congr_right ih

@[simp] theorem mem_union {s t : SortedSet κ} {k : κ} : k ∈ s.union t ↔ k ∈ s ∨ k ∈ t := by
  obtain ⟨ds, hds⟩ := s
  have h : ∀ ds : List κ, k ∈ ds.foldr (fun k t => t.insert k) t ↔ k ∈ ds ∨ k ∈ t := fun ds => by
    induction ds with
    | nil => simp
    | cons d ds ih => simp only [List.foldr_cons, mem_insert, ih, List.mem_cons, or_assoc]
  exact h ds

omit [Std.TransOrd κ] [Std.LawfulEqOrd κ] in
@[simp] theorem mem_filter {s : SortedSet κ} {p : κ → Bool} {k : κ} :
    k ∈ s.filter p ↔ k ∈ s ∧ p k := List.mem_filter

omit [Std.TransOrd κ] in
@[simp] theorem mem_erase {s : SortedSet κ} {k e : κ} : e ∈ s.erase k ↔ e ∈ s ∧ e ≠ k := by
  have h : ¬ k = e ↔ e ≠ k := ne_comm
  simp [erase, h]

omit [Std.TransOrd κ] in
@[simp] theorem contains_iff {s : SortedSet κ} {k : κ} : s.contains k ↔ k ∈ s := by
  rw [contains, List.any_eq_true]
  refine ⟨fun ⟨d, hd, hk⟩ => ?_, fun h => ⟨k, h, by simp⟩⟩
  have hkd : k = d := Std.LawfulEqOrd.eq_of_compare (beq_iff_eq.1 hk)
  exact hkd ▸ hd

theorem ext_mem {s t : SortedSet κ} (h : ∀ k, k ∈ s ↔ k ∈ t) : s = t := by
  obtain ⟨as, ha⟩ := s
  obtain ⟨bs, hb⟩ := t
  have h' : ∀ k, k ∈ as ↔ k ∈ bs := h
  simp only [SortedSet.mk.injEq]
  clear h
  induction as generalizing bs with
  | nil =>
    cases bs with
    | nil => rfl
    | cons b bs => exact absurd ((h' b).2 List.mem_cons_self) List.not_mem_nil
  | cons a as ih =>
    cases bs with
    | nil => exact absurd ((h' a).1 List.mem_cons_self) List.not_mem_nil
    | cons b bs =>
      obtain ⟨hda, hra⟩ := List.pairwise_cons.1 ha
      obtain ⟨hdb, hrb⟩ := List.pairwise_cons.1 hb
      have hab : a = b := by
        rcases List.mem_cons.1 ((h' a).1 List.mem_cons_self) with h1 | h1
        · exact h1
        · rcases List.mem_cons.1 ((h' b).2 List.mem_cons_self) with h2 | h2
          · exact h2.symm
          · have h3 := Std.TransCmp.lt_trans (hdb _ h1) (hda _ h2)
            simp at h3
      subst hab
      refine congrArg _ (ih hra bs hrb fun k => ⟨fun hk => ?_, fun hk => ?_⟩)
      · rcases List.mem_cons.1 ((h' k).1 (List.mem_cons_of_mem _ hk)) with rfl | h1
        · have := hda k hk; simp at this
        · exact h1
      · rcases List.mem_cons.1 ((h' k).2 (List.mem_cons_of_mem _ hk)) with rfl | h1
        · have := hdb k hk; simp at this
        · exact h1

/-- Two lists with the same members make the same set. -/
theorem ofList_congr {ks ls : List κ} (h : ∀ k, k ∈ ks ↔ k ∈ ls) : ofList ks = ofList ls :=
  ext_mem fun k => by simpa using h k

end SortedSet

end Provisioning
