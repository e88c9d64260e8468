/-!
Finite maps in key order.

A map is a list of entries with strictly ascending keys. So it has exactly one representation, and
listing it gives the order in which it is shown; `ext_get?` says that what can be looked up is all
there is.
-/

namespace Provisioning

universe u v

variable {κ : Type u} {α : Type v} [Ord κ] [Std.TransOrd κ] [Std.LawfulEqOrd κ]

/-! ### Lists of entries -/

namespace Entries

/-- Puts an entry into its place, replacing the one with the same key. -/
def insert (k : κ) (a : α) : List (κ × α) → List (κ × α)
  | [] => [(k, a)]
  | e :: rest =>
    match compare k e.1 with
    | .lt => (k, a) :: e :: rest
    | .eq => (k, a) :: rest
    | .gt => e :: insert k a rest

def get? (k : κ) : List (κ × α) → Option α
  | [] => none
  | e :: rest => if compare k e.1 = .eq then some e.2 else get? k rest

def erase (k : κ) (es : List (κ × α)) : List (κ × α) :=
  es.filter fun e => compare k e.1 != .eq

/-- Keys ascend strictly. -/
def Ascending (es : List (κ × α)) : Prop := es.Pairwise fun a b => compare a.1 b.1 = .lt

omit [Std.TransOrd κ] [Std.LawfulEqOrd κ] in
theorem mem_insert {k : κ} {a : α} {e : κ × α} {es : List (κ × α)} (h : e ∈ insert k a es) :
    e = (k, a) ∨ e ∈ es := by
  induction es with
  | nil => simpa [insert] using h
  | cons d rest ih => simp only [insert] at h; split at h <;> grind

theorem ascending_insert (k : κ) (a : α) {es : List (κ × α)} (h : Ascending es) :
    Ascending (insert k a es) := by
  induction es with
  | nil => exact List.pairwise_singleton _ _
  | cons d rest ih =>
    obtain ⟨hd, hrest⟩ := List.pairwise_cons.1 h
    simp only [insert]
    split
    next hc =>
      refine List.pairwise_cons.2 ⟨fun e he => ?_, h⟩
      rcases List.mem_cons.1 he with rfl | he
      · exact hc
      · exact Std.TransCmp.lt_trans hc (hd e he)
    next hc =>
      have hk : k = d.1 := Std.LawfulEqOrd.eq_of_compare hc
      exact List.pairwise_cons.2 ⟨fun e he => hk ▸ hd e he, hrest⟩
    next hc =>
      refine List.pairwise_cons.2 ⟨fun e he => ?_, ih hrest⟩
      rcases mem_insert he with rfl | he
      · exact Std.OrientedCmp.lt_of_gt hc
      · exact hd e he

omit [Std.TransOrd κ] [Std.LawfulEqOrd κ] in
theorem ascending_erase (k : κ) {es : List (κ × α)} (h : Ascending es) : Ascending (erase k es) :=
  h.filter _

omit [Std.TransOrd κ] in
theorem get?_insert [DecidableEq κ] (k k' : κ) (a : α) (es : List (κ × α)) :
    get? k' (insert k a es) = if k' = k then some a else get? k' es := by
  induction es with
  | nil => by_cases h : k' = k <;> simp [insert, get?, h]
  | cons d rest ih =>
    simp only [insert]
    split
    next => by_cases h : k' = k <;> simp [get?, h]
    next hc =>
      have hk : k = d.1 := Std.LawfulEqOrd.eq_of_compare hc
      by_cases h : k' = k <;> simp [get?, h, hk ▸ h]
    next hc =>
      have hne : k ≠ d.1 := fun h => by simp [h] at hc
      by_cases hd : k' = d.1
      · subst hd; simp [get?, Ne.symm hne]
      · simp [get?, hd, ih]

omit [Std.TransOrd κ] in
theorem get?_erase [DecidableEq κ] (k k' : κ) (es : List (κ × α)) :
    get? k' (erase k es) = if k' = k then none else get? k' es := by
  induction es with
  | nil => simp [erase, get?]
  | cons d rest ih =>
    simp only [erase, List.filter_cons] at ih ⊢
    by_cases hd : k = d.1
    · subst hd; by_cases h : k' = d.1 <;> simp_all [get?]
    · by_cases h : k' = d.1
      · subst h; simp [get?, hd, Ne.symm hd]
      · simp [get?, hd, h, ih]

omit [Std.TransOrd κ] in
theorem get?_eq_some_iff {k : κ} {a : α} {es : List (κ × α)} (h : Ascending es) :
    get? k es = some a ↔ (k, a) ∈ es := by
  induction es with
  | nil => simp [get?]
  | cons d rest ih =>
    obtain ⟨hd, hrest⟩ := List.pairwise_cons.1 h
    by_cases hk : k = d.1
    · subst hk
      simp only [get?, Std.LawfulEqOrd.compare_eq_iff_eq, if_true, Option.some.injEq,
        List.mem_cons]
      refine ⟨fun h => .inl (h ▸ rfl), fun h => ?_⟩
      rcases h with h | h
      · exact (congrArg Prod.snd h).symm
      · have := hd _ h; simp at this
    · simp only [get?, Std.LawfulEqOrd.compare_eq_iff_eq, hk, if_false, ih hrest, List.mem_cons]
      exact ⟨.inr, fun h => h.resolve_left fun h => hk (congrArg Prod.fst h)⟩

theorem ext_get? {es fs : List (κ × α)} (he : Ascending es) (hf : Ascending fs)
    (h : ∀ k, get? k es = get? k fs) : es = fs := by
  induction es generalizing fs with
  | nil =>
    cases fs with
    | nil => rfl
    | cons f fs => have := h f.1; simp [get?] at this
  | cons e es ih =>
    cases fs with
    | nil => have := h e.1; simp [get?] at this
    | cons f fs =>
      have hmem : ∀ x, x ∈ e :: es ↔ x ∈ f :: fs := fun x => by
        rw [← get?_eq_some_iff (k := x.1) (a := x.2) he,
          ← get?_eq_some_iff (k := x.1) (a := x.2) hf, h]
      obtain ⟨hde, hre⟩ := List.pairwise_cons.1 he
      obtain ⟨hdf, hrf⟩ := List.pairwise_cons.1 hf
      have hef : e = f := by
        rcases List.mem_cons.1 ((hmem e).1 List.mem_cons_self) with h1 | h1
        · exact h1
        · rcases List.mem_cons.1 ((hmem f).2 List.mem_cons_self) with h2 | h2
          · exact h2.symm
          · have h3 := Std.TransCmp.lt_trans (hdf _ h1) (hde _ h2)
            simp at h3
      subst hef
      refine congrArg _ (ih hre hrf fun k => ?_)
      have hk := h k
      by_cases hke : k = e.1
      · subst hke
        have aux : ∀ {gs : List (κ × α)}, (∀ x ∈ gs, compare e.1 x.1 = .lt) →
            get? e.1 gs = none := by
          intro gs hgs
          induction gs with
          | nil => rfl
          | cons g gs ihg =>
            have hg := hgs g List.mem_cons_self
            simp [get?, hg, ihg fun x hx => hgs x (List.mem_cons_of_mem _ hx)]
        rw [aux hde, aux hdf]
      · simpa [get?, hke] using hk

end Entries

/-! ### Maps -/

/-- A finite map, its entries listed by ascending key. -/
structure SortedMap (κ : Type u) (α : Type v) [Ord κ] where
  /-- The entries by ascending key. -/
  toList : List (κ × α)
  ascending : Entries.Ascending toList

namespace SortedMap

instance [DecidableEq κ] [DecidableEq α] : DecidableEq (SortedMap κ α) := fun a b =>
  decidable_of_iff (a.toList = b.toList) (by cases a; cases b; simp)

def empty : SortedMap κ α := ⟨[], List.Pairwise.nil⟩

instance : EmptyCollection (SortedMap κ α) := ⟨empty⟩

instance : Inhabited (SortedMap κ α) := ⟨empty⟩

/-- Puts a value under a key, replacing the one that was there. -/
def insert (m : SortedMap κ α) (k : κ) (a : α) : SortedMap κ α :=
  ⟨Entries.insert k a m.toList, Entries.ascending_insert k a m.ascending⟩

def erase (m : SortedMap κ α) (k : κ) : SortedMap κ α :=
  ⟨Entries.erase k m.toList, Entries.ascending_erase k m.ascending⟩

def get? (m : SortedMap κ α) (k : κ) : Option α := Entries.get? k m.toList

def contains (m : SortedMap κ α) (k : κ) : Bool := (m.get? k).isSome

def keys (m : SortedMap κ α) : List κ := m.toList.map Prod.fst

def values (m : SortedMap κ α) : List α := m.toList.map Prod.snd

def size (m : SortedMap κ α) : Nat := m.toList.length

/-- The map of a list of entries; of two entries with one key the later counts. -/
def ofList (es : List (κ × α)) : SortedMap κ α :=
  es.foldl (fun m e => m.insert e.1 e.2) empty

omit [Std.TransOrd κ] [Std.LawfulEqOrd κ] in
@[simp] theorem get?_empty (k : κ) : (empty : SortedMap κ α).get? k = none := rfl

theorem get?_insert [DecidableEq κ] (m : SortedMap κ α) (k k' : κ) (a : α) :
    (m.insert k a).get? k' = if k' = k then some a else m.get? k' :=
  Entries.get?_insert k k' a m.toList

@[simp] theorem get?_insert_self (m : SortedMap κ α) (k : κ) (a : α) :
    (m.insert k a).get? k = some a := by classical simp [get?_insert]

theorem get?_insert_of_ne (m : SortedMap κ α) {k k' : κ} (a : α) (h : k' ≠ k) :
    (m.insert k a).get? k' = m.get? k' := by classical simp [get?_insert, h]

omit [Std.TransOrd κ] in
theorem get?_erase [DecidableEq κ] (m : SortedMap κ α) (k k' : κ) :
    (m.erase k).get? k' = if k' = k then none else m.get? k' :=
  Entries.get?_erase k k' m.toList

omit [Std.TransOrd κ] in
theorem get?_eq_some_iff {m : SortedMap κ α} {k : κ} {a : α} :
    m.get? k = some a ↔ (k, a) ∈ m.toList :=
  Entries.get?_eq_some_iff m.ascending

theorem ext_get? {m n : SortedMap κ α} (h : ∀ k, m.get? k = n.get? k) : m = n := by
  cases m; cases n
  simp only [SortedMap.mk.injEq]
  exact Entries.ext_get? ‹_› ‹_› h

omit [Std.TransOrd κ] in
theorem mem_values_iff {m : SortedMap κ α} {a : α} :
    a ∈ m.values ↔ ∃ k, m.get? k = some a := by
  simp [values, get?_eq_some_iff]

end SortedMap

end Provisioning
