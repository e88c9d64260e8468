import Mathlib.Data.List.Forall2
import Provisioning.Proofs.Grant.Distinct

/-!
What a batch of changes does.

Once its references are looked up, a change takes entitlements away or gives one, and it fits the
entitlements held before the batch or not (`ResolvedChange.Fits`). `carryOut` carries changes out
one after the other. A batch is judged at once, every change against the entitlements held before
it; `applyEffects_eq` says that this is carrying it out. The order in which changes are judged is
that of a stable sort by priority (`ChangeOp.inOrder_eq_mergeSort`).
-/

namespace Provisioning

/-! ### The order of a batch -/

namespace ChangeOp

section Order

variable {α : Type} {f : α → ChangeOp} {as : List α}

/-- What is in order stays as it is. -/
lemma inOrder_of_pairwise (h : as.Pairwise fun a b => (f a).priority ≤ (f b).priority) :
    inOrder f as = as := by
  induction as with
  | nil => rfl
  | cons a as ih =>
    obtain ⟨hfirst, hrest⟩ := List.pairwise_cons.mp h
    -- nothing that comes before `a` is among the others
    have hnone : ∀ op, op.priority < (f a).priority → as.filter (f · == op) = [] := fun op hlt =>
      List.filter_eq_nil_iff.mpr fun b hb heq => by
        obtain rfl := beq_iff_eq.mp heq
        exact absurd (hfirst b hb) (Nat.not_le_of_lt hlt)
    have ih := ih hrest
    unfold inOrder all at ih ⊢
    simp only [List.flatMap_cons, List.flatMap_nil, List.append_nil, List.filter_cons] at ih ⊢
    cases ha : f a with
    | removeOne => simpa using ih
    | removeAll =>
      have hone := hnone .removeOne (by rw [ha]; decide)
      rw [hone, List.nil_append] at ih
      simpa [hone] using ih
    | add =>
      have hone := hnone .removeOne (by rw [ha]; decide)
      have hall := hnone .removeAll (by rw [ha]; decide)
      rw [hone, hall, List.nil_append, List.nil_append] at ih
      simpa [hone, hall] using ih

/-- **The order of a batch is that of a stable sort by priority.** -/
theorem inOrder_eq_mergeSort (f : α → ChangeOp) (as : List α) :
    inOrder f as = as.mergeSort fun a b => (f a).priority ≤ (f b).priority := by
  have htrans : ∀ a b c : α, decide ((f a).priority ≤ (f b).priority) →
      decide ((f b).priority ≤ (f c).priority) → decide ((f a).priority ≤ (f c).priority) := by
    grind
  have htotal : ∀ a b : α, decide ((f a).priority ≤ (f b).priority) ||
      decide ((f b).priority ≤ (f a).priority) := by
    grind
  have hsorted := List.pairwise_mergeSort htrans htotal as
  have hperm := List.mergeSort_perm as fun a b => (f a).priority ≤ (f b).priority
  generalize hsort : (as.mergeSort fun a b => (f a).priority ≤ (f b).priority) = sorted
    at hsorted hperm ⊢
  -- those that do the same are in the sorted list in the order in which they were
  have hsame : ∀ op, as.filter (f · == op) = sorted.filter (f · == op) := fun op => by
    have hequal : (as.filter (f · == op)).Pairwise
        fun a b => decide ((f a).priority ≤ (f b).priority) := by
      refine List.pairwise_of_forall_mem_list fun a ha b hb => ?_
      have ha := beq_iff_eq.mp (List.mem_filter.mp ha).2
      have hb := beq_iff_eq.mp (List.mem_filter.mp hb).2
      simp [ha, hb]
    have hsub := List.sublist_mergeSort htrans htotal hequal List.filter_sublist
    rw [hsort] at hsub
    have hfiltered := hsub.filter (f · == op)
    rw [List.filter_filter] at hfiltered
    simp only [Bool.and_self] at hfiltered
    exact hfiltered.eq_of_length_le (Nat.le_of_eq (hperm.filter _).length_eq)
  calc inOrder f as = inOrder f sorted := List.flatMap_congr fun op _ => hsame op
    _ = sorted := inOrder_of_pairwise (by simpa using hsorted)

end Order

end ChangeOp

namespace ResolvedChange

/-- Whether the change takes an entitlement away from those who have it. -/
def takes (r : ResolvedChange) (e : Entitlement) : Bool :=
  match r.change.op, r.role with
  | .removeOne, some (role, _) => e == ⟨r.account, role⟩
  | .removeAll, none => e.account == r.account
  | _, _ => false

/-- The entitlement that the change gives. -/
def given? (r : ResolvedChange) : Option Entitlement :=
  match r.change.op, r.role with
  | .add, some (role, _) => some ⟨r.account, role⟩
  | _, _ => none

/-- The change fits the entitlements held before the batch. -/
inductive Fits (held : List Entitlement) (r : ResolvedChange) : Prop where
  /-- One entitlement is taken away, and it is held. -/
  | removeOne {role : Uuid} {name : String} (op : r.change.op = .removeOne)
    (target : r.role = some (role, name)) (mem : ⟨r.account, role⟩ ∈ held)
  /-- All on an account are taken away, and there are some. -/
  | removeAll {e : Entitlement} (op : r.change.op = .removeAll) (target : r.role = none)
    (mem : e ∈ held) (account : e.account = r.account)
  /-- One entitlement is given, and it is not held. -/
  | add {role : Uuid} {name : String} (op : r.change.op = .add)
    (target : r.role = some (role, name)) (fresh : ⟨r.account, role⟩ ∉ held)

section Fits

variable {held : List Entitlement} {r : ResolvedChange} {role : Uuid} {name : String}

lemma fits_removeOne_iff (held : List Entitlement) (op : r.change.op = .removeOne)
    (target : r.role = some (role, name)) :
    r.Fits held ↔ ⟨r.account, role⟩ ∈ held := by
  refine ⟨?_, .removeOne op target⟩
  rintro (⟨-, target', mem⟩ | ⟨op', -, -, -⟩ | ⟨op', -, -⟩)
  · rw [target] at target'
    cases target'
    exact mem
  · simp [op] at op'
  · simp [op] at op'

lemma fits_removeAll_iff (held : List Entitlement) (op : r.change.op = .removeAll)
    (target : r.role = none) :
    r.Fits held ↔ ∃ e ∈ held, e.account = r.account := by
  constructor
  · rintro (⟨op', -, -⟩ | ⟨-, -, mem, account⟩ | ⟨op', -, -⟩)
    · simp [op] at op'
    · exact ⟨_, mem, account⟩
    · simp [op] at op'
  · rintro ⟨e, mem, account⟩
    exact .removeAll op target mem account

lemma fits_add_iff (held : List Entitlement) (op : r.change.op = .add)
    (target : r.role = some (role, name)) :
    r.Fits held ↔ ⟨r.account, role⟩ ∉ held := by
  refine ⟨?_, .add op target⟩
  rintro (⟨op', -, -⟩ | ⟨op', -, -, -⟩ | ⟨-, target', fresh⟩)
  · simp [op] at op'
  · simp [op] at op'
  · rw [target] at target'
    cases target'
    exact fresh

/-- A change whose target is not of the sort that it needs fits nowhere. -/
lemma not_fits_of_target (h : r.change.op = .removeAll ↔ r.role ≠ none) : ¬r.Fits held := by
  rintro (⟨op, target, -⟩ | ⟨op, target, -, -⟩ | ⟨op, target, -⟩) <;> simp [op, target] at h

instance : Decidable (r.Fits held) :=
  match op : r.change.op, target : r.role with
  | .removeOne, some _ => decidable_of_iff _ (fits_removeOne_iff held op target).symm
  | .removeAll, none => decidable_of_iff _ (fits_removeAll_iff held op target).symm
  | .add, some _ => decidable_of_iff _ (fits_add_iff held op target).symm
  | .removeOne, none => .isFalse (not_fits_of_target (by simp [op, target]))
  | .removeAll, some _ => .isFalse (not_fits_of_target (by simp [op, target]))
  | .add, none => .isFalse (not_fits_of_target (by simp [op, target]))

end Fits

/-- What is wrong with a change that does not fit. -/
inductive Violates (held : List Entitlement) (r : ResolvedChange) : ChangeFault → Prop where
  | roleRequired (op : r.change.op ≠ .removeAll) (target : r.role = none) :
    Violates held r .roleRequired
  | allRolesRequired (op : r.change.op = .removeAll) (target : r.role ≠ none) :
    Violates held r .allRolesRequired
  | notHeld {role : Uuid} {name : String} (op : r.change.op = .removeOne)
    (target : r.role = some (role, name)) (missing : ⟨r.account, role⟩ ∉ held) :
    Violates held r .notHeld
  | nothingOnAccount (op : r.change.op = .removeAll) (target : r.role = none)
    (nothing : ∀ e ∈ held, e.account ≠ r.account) : Violates held r .nothingOnAccount
  | alreadyHeld {role : Uuid} {name : String} (op : r.change.op = .add)
    (target : r.role = some (role, name)) (mem : ⟨r.account, role⟩ ∈ held) :
    Violates held r .alreadyHeld

/-- An error says what is wrong with the change. -/
def Complains (held : List Entitlement) (r : ResolvedChange) (error : ChangeError) : Prop :=
  ∃ fault, r.Violates held fault ∧ error = r.change.refuse fault

/-- Errors say what is wrong with each change that does not fit, one by one, and nothing else. -/
def Complaints (held : List Entitlement) (batch : List ResolvedChange)
    (errors : List ChangeError) : Prop :=
  List.Forall₂ (·.Complains held ·) (batch.filter fun r => ¬r.Fits held) errors

section Violates

variable {held : List Entitlement} {r : ResolvedChange} {fault fault' : ChangeFault}

lemma Violates.not_fits (h : r.Violates held fault) : ¬r.Fits held := by
  cases h with
  | roleRequired op target => exact not_fits_of_target (by simp [op, target])
  | allRolesRequired op target => exact not_fits_of_target (by simp [op, target])
  | notHeld op target missing => exact mt (fits_removeOne_iff held op target).mp missing
  | nothingOnAccount op target nothing =>
    rw [fits_removeAll_iff held op target]
    exact fun ⟨e, he, haccount⟩ => nothing e he haccount
  | alreadyHeld op target mem => exact fun h => (fits_add_iff held op target).mp h mem

/-- There is one thing wrong with a change. -/
lemma Violates.eq (h : r.Violates held fault) (h' : r.Violates held fault') : fault = fault' := by
  cases h <;> cases h' <;> simp_all

lemma Complains.eq {error error' : ChangeError} (h : r.Complains held error)
    (h' : r.Complains held error') : error = error' := by
  obtain ⟨fault, hfault, rfl⟩ := h
  obtain ⟨fault', hfault', rfl⟩ := h'
  rw [hfault.eq hfault']

/-- What is wrong with a batch determines the errors. -/
lemma Complaints.eq {batch : List ResolvedChange} {errors errors' : List ChangeError}
    (h : Complaints held batch errors) (h' : Complaints held batch errors') : errors = errors' := by
  have hunique : Relator.RightUnique fun (r : ResolvedChange) error => r.Complains held error :=
    fun _ _ _ => Complains.eq
  exact hunique.forall₂ h h'

end Violates

/-- The change touches an entitlement: it is held and taken away, or it is given. -/
def Touches (held : List Entitlement) (r : ResolvedChange) (e : Entitlement) : Prop :=
  (e ∈ held ∧ r.takes e) ∨ r.given? = some e

/-- Carries out one change. -/
def perform (user : Uuid) (gs : List Grant) (r : ResolvedChange) : List Grant :=
  match r.given? with
  | some e => if e ∈ gs.map Grant.entitlement then gs else gs ++ [e.grantTo user]
  | none => gs.filter fun g => !r.takes g.entitlement

end ResolvedChange

/-- Carries out changes one after the other. -/
def carryOut (user : Uuid) (batch : List ResolvedChange) (gs : List Grant) : List Grant :=
  batch.foldl (ResolvedChange.perform user) gs

/-- Whether some change of a batch takes an entitlement away. -/
def takesAny (batch : List ResolvedChange) (e : Entitlement) : Bool := batch.any (·.takes e)

/-- The grants that a batch adds, each at its first place. -/
def additions (user : Uuid) (batch : List ResolvedChange) : List Grant :=
  (distinctBy id [] (batch.filterMap (·.given?))).map (·.grantTo user)

/-- What a batch does to the grants of a user. -/
def outcomeOf (user : Uuid) (current : List Grant) (batch : List ResolvedChange) :
    GrantChanges where
  grants := carryOut user batch current
  added := additions user batch
  removed := current.filter fun g => takesAny batch g.entitlement

section CarryOut

variable {user : Uuid} {gs : List Grant} {batch : List ResolvedChange} {r : ResolvedChange}

lemma mem_byPriority : r ∈ byPriority batch ↔ r ∈ batch := by
  unfold byPriority ChangeOp.inOrder
  rw [List.mem_flatMap]
  constructor
  · rintro ⟨op, -, hr⟩
    exact List.mem_of_mem_filter hr
  · exact fun hr => ⟨r.change.op, by cases r.change.op <;> decide, by simpa using hr⟩

/-- Changes in the order in which they are judged are removals and then additions. -/
lemma byPriority_eq (batch : List ResolvedChange) :
    ∃ removals additions, byPriority batch = removals ++ additions ∧
      (∀ r ∈ removals, r.change.op ≠ .add) ∧ ∀ r ∈ additions, r.change.op = .add := by
  refine ⟨batch.filter (·.change.op == .removeOne) ++ batch.filter (·.change.op == .removeAll),
    batch.filter (·.change.op == .add), ?_, fun r hr => ?_, fun r hr => ?_⟩
  · simp [byPriority, ChangeOp.inOrder, ChangeOp.all]
  · rcases List.mem_append.mp hr with hr | hr <;> have := (List.mem_filter.mp hr).2 <;>
      simp_all
  · simpa using (List.mem_filter.mp hr).2

lemma takesAny_byPriority (batch : List ResolvedChange) (e : Entitlement) :
    takesAny (byPriority batch) e = takesAny batch e := by
  unfold takesAny
  rw [Bool.eq_iff_iff, List.any_eq_true, List.any_eq_true]
  simp only [mem_byPriority]

lemma ResolvedChange.given?_of_op (h : r.change.op ≠ .add) : r.given? = none := by
  unfold given?
  split
  next hop _ => exact absurd hop h
  next => rfl

lemma ResolvedChange.takes_of_op (h : r.change.op = .add) (e : Entitlement) :
    r.takes e = false := by
  unfold takes
  rw [h]

lemma ResolvedChange.Fits.given?_eq {held : List Entitlement} (h : r.Fits held)
    (hop : r.change.op = .add) : ∃ e, r.given? = some e ∧ e ∉ held := by
  cases h with
  | removeOne op => simp [op] at hop
  | removeAll op => simp [op] at hop
  | add op target fresh => exact ⟨_, by simp [given?, op, target], fresh⟩

lemma filterMap_given?_byPriority (batch : List ResolvedChange) :
    (byPriority batch).filterMap (·.given?) = batch.filterMap (·.given?) := by
  have hnone : ∀ op, op ≠ .add →
      (batch.filter (·.change.op == op)).filterMap (·.given?) = [] := fun op hop =>
    List.filterMap_eq_nil_iff.mpr fun r hr =>
      r.given?_of_op (by simpa [eq_of_beq (List.mem_filter.mp hr).2] using hop)
  have hadd : (batch.filter (·.change.op == .add)).filterMap (·.given?) =
      batch.filterMap (·.given?) := by
    rw [List.filterMap_filter]
    refine List.filterMap_congr fun r _ => ?_
    by_cases hop : r.change.op = .add
    · rw [if_pos (by simp [hop])]
    · rw [if_neg (by simp [hop]), r.given?_of_op hop]
  unfold byPriority ChangeOp.inOrder ChangeOp.all
  simp only [List.flatMap_cons, List.flatMap_nil, List.filterMap_append, List.append_nil,
    hnone .removeOne (by decide), hnone .removeAll (by decide), List.nil_append, hadd]

lemma mem_additions {g : Grant} : g ∈ additions user batch ↔
    ∃ r ∈ batch, ∃ e, r.given? = some e ∧ e.grantTo user = g := by
  unfold additions
  simp only [List.mem_map, mem_distinctBy_id, List.mem_filterMap]
  constructor
  · rintro ⟨e, ⟨r, hr, he⟩, hg⟩
    exact ⟨r, hr, e, he, hg⟩
  · rintro ⟨r, hr, e, he, hg⟩
    exact ⟨e, ⟨r, hr, he⟩, hg⟩

/-- What a change that fits gives was not held. -/
lemma ResolvedChange.Fits.fresh {held : List Entitlement} (h : r.Fits held) {e : Entitlement}
    (he : r.given? = some e) : e ∉ held := by
  by_cases hop : r.change.op = .add
  · obtain ⟨e', he', hfresh⟩ := h.given?_eq hop
    obtain rfl : e' = e := Option.some.inj (he'.symm.trans he)
    exact hfresh
  · rw [r.given?_of_op hop] at he
    cases he

/-- Removals leave what none of them takes. -/
lemma carryOut_removals (h : ∀ r ∈ batch, r.given? = none) (gs : List Grant) :
    carryOut user batch gs = gs.filter fun g => !takesAny batch g.entitlement := by
  unfold carryOut
  induction batch generalizing gs with
  | nil => simp [takesAny]
  | cons r rest ih =>
    rw [List.foldl_cons, ih fun r' hr' => h r' (List.mem_cons_of_mem r hr')]
    unfold ResolvedChange.perform
    rw [h r List.mem_cons_self]
    dsimp only
    rw [List.filter_filter]
    refine List.filter_congr fun g _ => ?_
    simp [takesAny, Bool.and_comm]

/-- Additions come last, each at its first place. -/
lemma carryOut_additions (h : ∀ r ∈ batch, r.given? ≠ none) (gs : List Grant) :
    carryOut user batch gs = gs ++
      (distinctBy id (gs.map Grant.entitlement) (batch.filterMap (·.given?))).map
        (·.grantTo user) := by
  unfold carryOut
  induction batch generalizing gs with
  | nil => simp [distinctBy]
  | cons r rest ih =>
    obtain ⟨e, he⟩ := Option.ne_none_iff_exists'.mp (h r List.mem_cons_self)
    rw [List.foldl_cons, ih fun r' hr' => h r' (List.mem_cons_of_mem r hr'),
      List.filterMap_cons_some he]
    unfold ResolvedChange.perform
    rw [he]
    dsimp only
    by_cases hmem : e ∈ gs.map Grant.entitlement
    · rw [if_pos hmem, distinctBy_cons_of_mem (f := id) hmem]
    · rw [if_neg hmem, distinctBy_cons_of_not_mem (f := id) hmem, List.append_assoc]
      have hseen : ∀ e' ∈ rest.filterMap (·.given?),
          id e' ∈ (gs ++ [e.grantTo user]).map Grant.entitlement ↔
            id e' ∈ e :: gs.map Grant.entitlement := by
        intro e' _
        simp [Grant.entitlement, Entitlement.grantTo, or_comm]
      rw [distinctBy_congr hseen]
      rfl

/-- **Carrying out** a batch whose changes fit: what is taken away goes, the rest stays in its
place, and what is given comes after it. -/
lemma carryOut_byPriority (h : ∀ r ∈ batch, r.Fits (gs.map Grant.entitlement)) :
    carryOut user (byPriority batch) gs =
      (gs.filter fun g => !takesAny batch g.entitlement) ++ additions user (byPriority batch) := by
  obtain ⟨rem, adds, heq, hrem, hadds⟩ := byPriority_eq batch
  have hnone : ∀ r ∈ rem, r.given? = none := fun r hr => r.given?_of_op (hrem r hr)
  have hfits : ∀ r ∈ adds, r.Fits (gs.map Grant.entitlement) := fun r hr =>
    h r (mem_byPriority.mp (heq ▸ List.mem_append_right rem hr))
  have hsome : ∀ r ∈ adds, r.given? ≠ none := fun r hr => by
    obtain ⟨e, he, -⟩ := (hfits r hr).given?_eq (hadds r hr)
    simp [he]
  have htakes : ∀ e, takesAny rem e = takesAny batch e := fun e => by
    have hadd : takesAny adds e = false :=
      List.any_eq_false.mpr fun r hr => by simp [ResolvedChange.takes_of_op (hadds r hr)]
    rw [← takesAny_byPriority batch, heq]
    unfold takesAny at hadd ⊢
    rw [List.any_append, hadd, Bool.or_false]
  have hgiven : (byPriority batch).filterMap (·.given?) = adds.filterMap (·.given?) := by
    rw [heq, List.filterMap_append, List.filterMap_eq_nil_iff.mpr hnone, List.nil_append]
  unfold additions
  rw [hgiven, heq]
  unfold carryOut
  rw [List.foldl_append]
  change carryOut user adds (carryOut user rem gs) = _
  rw [carryOut_removals hnone, carryOut_additions hsome]
  simp only [htakes]
  -- what is given was not held, so it does not matter what is kept
  congr 2
  refine distinctBy_congr fun e he => ?_
  obtain ⟨r, hr, hre⟩ := List.mem_filterMap.mp he
  refine iff_of_false (fun hmem => (hfits r hr).fresh hre ?_) List.not_mem_nil
  obtain ⟨g, hg, hge⟩ := List.mem_map.mp hmem
  exact List.mem_map.mpr ⟨g, List.mem_of_mem_filter hg, hge⟩

lemma nodup_additions (user : Uuid) (batch : List ResolvedChange) :
    ((additions user batch).map Grant.entitlement).Nodup := by
  have hid : Grant.entitlement ∘ (·.grantTo user) = id := rfl
  unfold additions
  rw [List.map_map, hid, List.map_id]
  exact nodup_distinctBy_id

lemma mem_map_additions {e : Entitlement} :
    e ∈ (additions user batch).map Grant.entitlement ↔ ∃ r ∈ batch, r.given? = some e := by
  simp only [List.mem_map, mem_additions]
  constructor
  · rintro ⟨_, ⟨r, hr, e', he', rfl⟩, rfl⟩
    exact ⟨r, hr, he'⟩
  · rintro ⟨r, hr, he⟩
    exact ⟨_, ⟨r, hr, e, he, rfl⟩, rfl⟩

/-- What is held after a batch: what was held and is not taken away, and what is given. -/
lemma mem_map_outcomeOf (h : ∀ r ∈ batch, r.Fits (gs.map Grant.entitlement)) {e : Entitlement} :
    e ∈ (outcomeOf user gs (byPriority batch)).grants.map Grant.entitlement ↔
      (e ∈ gs.map Grant.entitlement ∧ takesAny batch e = false) ∨
        ∃ r ∈ batch, r.given? = some e := by
  unfold outcomeOf
  rw [carryOut_byPriority h, List.map_append, List.mem_append, mem_map_additions]
  simp only [mem_byPriority]
  refine or_congr_left ?_
  simp only [List.mem_map, List.mem_filter, Bool.not_eq_true']
  constructor
  · rintro ⟨g, ⟨hg, htakes⟩, rfl⟩
    exact ⟨⟨g, hg, rfl⟩, htakes⟩
  · rintro ⟨⟨g, hg, rfl⟩, htakes⟩
    exact ⟨g, ⟨hg, htakes⟩, rfl⟩

/-- No entitlement is held twice after a batch, if none was before. -/
lemma nodup_outcomeOf (user : Uuid) (hnodup : (gs.map Grant.entitlement).Nodup)
    (h : ∀ r ∈ batch, r.Fits (gs.map Grant.entitlement)) :
    ((outcomeOf user gs (byPriority batch)).grants.map Grant.entitlement).Nodup := by
  unfold outcomeOf
  rw [carryOut_byPriority h, List.map_append, List.nodup_append]
  refine ⟨hnodup.sublist (List.filter_sublist.map _), nodup_additions _ _, ?_⟩
  rintro e hkept _ hadded rfl
  obtain ⟨r, hr, he⟩ := mem_map_additions.mp hadded
  refine (h r (mem_byPriority.mp hr)).fresh he ?_
  exact (List.filter_sublist.map _).subset hkept

/-- What is there after a batch was there before it or is added. -/
lemma mem_outcomeOf (h : ∀ r ∈ batch, r.Fits (gs.map Grant.entitlement)) {g : Grant}
    (hg : g ∈ (outcomeOf user gs (byPriority batch)).grants) :
    g ∈ gs ∨ g ∈ (outcomeOf user gs (byPriority batch)).added := by
  unfold outcomeOf at hg ⊢
  rw [carryOut_byPriority h] at hg
  exact (List.mem_append.mp hg).imp_left List.mem_of_mem_filter

end CarryOut

end Provisioning
