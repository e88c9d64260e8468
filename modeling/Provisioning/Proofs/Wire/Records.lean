import Provisioning.Proofs.Stored.Calendar
import Provisioning.Proofs.Stored.Document
import Provisioning.Proofs.Stored.Identifier
import Provisioning.Wire.Requests

/-!
Readers and the JSON values that they take.

`Reader.Takes` says that a reader reads a certain value from a JSON value wherever there is room for
it, and there is one lemma for each way to build a reader. A record is written with declared fields
in some order, none of them twice, and perhaps without some that have a default. So what is found
for a field is what was written for it (`Record.Holds`).
-/

namespace Provisioning

open Json (Document ofMembers ofList ofOption ofStrings)

/-! ### Members in key order -/

namespace Json.Document

variable {members entries : List (String × Json)}

lemma insert_perm {k : String} {j : Json} (h : k ∉ entries.map Prod.fst) :
    (Entries.insert k j entries).Perm ((k, j) :: entries) := by
  induction entries with
  | nil => exact List.Perm.refl _
  | cons e rest ih =>
    obtain ⟨hne, hrest⟩ := List.ne_and_not_mem_of_not_mem_cons h
    unfold Entries.insert
    split
    next => exact List.Perm.refl _
    next heq => exact absurd (Std.LawfulEqOrd.eq_of_compare heq) hne
    next => exact ((ih hrest).cons e).trans (List.Perm.swap _ _ _)

/-- Putting members with different names into their places only changes their order. -/
lemma insertMembers_perm (h : ((members ++ entries).map Prod.fst).Nodup) :
    (insertMembers entries members).Perm (members ++ entries) := by
  unfold insertMembers
  induction members generalizing entries with
  | nil => exact List.Perm.refl _
  | cons m rest ih =>
    obtain ⟨hm, hrest⟩ := List.nodup_cons.mp h
    have hne : m.1 ∉ entries.map Prod.fst := fun hmem =>
      hm (List.map_append ▸ List.mem_append_right _ hmem)
    have hinsert := (insert_perm (j := m.2) hne).append_left rest
    have hmiddle := hinsert.trans List.perm_middle
    exact (ih ((hmiddle.map Prod.fst).nodup_iff.mpr h)).trans hmiddle

lemma ofItems_eq_map (items : List Json) : ofItems items = items.map ofJson := by
  induction items with
  | nil => rfl
  | cons j rest ih => exact congrArg _ ih

lemma depthOfItems_le_iff {items : List Json} {n : Nat} :
    depthOfItems (ofItems items) ≤ n ↔ ∀ j ∈ items, (ofJson j).depth ≤ n := by
  induction items with
  | nil => exact iff_of_true (Nat.zero_le n) fun j hj => by cases hj
  | cons j rest ih =>
    rw [List.forall_mem_cons, ← ih]
    exact Nat.max_le

end Json.Document

lemma SortedMap.toList_foldl_insert (m : SortedMap String Json) (es : List (String × Json)) :
    (es.foldl (fun m e => m.insert e.1 e.2) m).toList = Document.insertMembers m.toList es := by
  induction es generalizing m with
  | nil => rfl
  | cons e rest ih => exact ih (m.insert e.1 e.2)

lemma SortedMap.ofList_toList (m : SortedMap String Json) : ofList m.toList = m := by
  have hsame : (ofList m.toList).toList = m.toList :=
    (toList_foldl_insert empty m.toList).trans (Document.insertMembers_of_ascending m.ascending)
  refine ext_get? fun k => ?_
  unfold get?
  rw [hsame]

/-! ### Readers -/

namespace Reader

variable {α : Type} {r : Reader α} {j : Json} {a : α}

/-- Wherever there is room for a JSON value, a reader reads a certain value from it. -/
def Takes (r : Reader α) (j : Json) (a : α) : Prop :=
  ∀ room, (Document.ofJson j).depth ≤ room → r room (Document.ofJson j) = some a

lemma Takes.ofJson? (h : r.Takes j a) : r.ofJson? j = some a := h _ (Nat.le_refl _)

lemma takes_string (s : String) : string.Takes (.string s) s := fun _ _ => rfl

lemma takes_bool (b : Bool) : bool.Takes (.bool b) b := fun _ _ => rfl

lemma takes_parsed {f : String → Option α} {s : String} (h : f s = some a) :
    (parsed f).Takes (.string s) a := fun _ _ => h

lemma takes_uuid (u : Uuid) : uuid.Takes u.toJson u := takes_parsed (Uuid.ofText?_toText u)

lemma takes_named {f : String → Option α} {s : String} (h : f s = some a) :
    (named f).Takes (.string s) a := fun _ _ => h

lemma Takes.some (h : r.Takes j a) (hj : j.isNull = false) : (optional r).Takes j (some a) := by
  intro room hroom
  have hread : (r room (Document.ofJson j)).map Option.some = Option.some (Option.some a) := by
    rw [h room hroom]
    rfl
  cases j with
  | null => cases hj
  | _ => exact hread

lemma takes_ofOption {write : α → Json} (hwrite : ∀ a, r.Takes (write a) a)
    (hnull : ∀ a, (write a).isNull = false) (o : Option α) :
    (optional r).Takes (ofOption write o) o := by
  cases o with
  | none => exact fun _ _ => rfl
  | some a => exact (hwrite a).some (hnull a)

lemma mapM_map_of_forall {β : Type} {f : β → Option α} {g : α → β} {k : α → α} {as : List α}
    (h : ∀ a ∈ as, f (g a) = Option.some (k a)) :
    (as.map g).mapM f = Option.some (as.map k) := by
  induction as with
  | nil => rfl
  | cons a rest ih =>
    obtain ⟨hhead, htail⟩ := List.forall_mem_cons.mp h
    rw [List.map_cons, List.mapM_cons, bind_of_eq_some hhead, bind_of_eq_some (ih htail)]
    rfl

lemma takes_ofList_map {write : α → Json} {k : α → α} {as : List α}
    (h : ∀ a ∈ as, r.Takes (write a) (k a)) : (list r).Takes (ofList write as) (as.map k) := by
  intro room hroom
  cases room with
  | zero => exact absurd hroom (Nat.not_succ_le_zero _)
  | succ room =>
    have hfits := Document.depthOfItems_le_iff.mp (Nat.le_of_succ_le_succ hroom)
    change (Document.ofItems (as.map write)).mapM (r room) = some (as.map k)
    rw [Document.ofItems_eq_map, List.map_map]
    exact mapM_map_of_forall fun a ha => h a ha room (hfits _ (List.mem_map_of_mem ha))

lemma takes_ofList {write : α → Json} {as : List α} (h : ∀ a ∈ as, r.Takes (write a) a) :
    (list r).Takes (ofList write as) as := by
  have hread := takes_ofList_map h
  rw [List.map_id'] at hread
  exact hread

lemma takes_ofStrings (ss : List String) : (list string).Takes (ofStrings ss) ss :=
  takes_ofList fun s _ => takes_string s

/-- Attributes are read from what is written of them if the members of every value are in order. -/
lemma takes_attributesToJson {m : SortedMap String Json} (h : ∀ e ∈ m.toList, e.2.Ordered) :
    object.Takes (attributesToJson m) m := by
  unfold attributesToJson
  rw [Document.ofMembers_of_ascending m.ascending]
  intro room hroom
  cases room with
  | zero => exact absurd hroom (Nat.not_succ_le_zero _)
  | succ room =>
    have hvalues := Document.memberValues?_ofMemberList m.toList room
      (Document.orderedMembers_iff.mpr h) (Nat.le_of_succ_le_succ hroom)
    change (Document.memberValues? room _).map SortedMap.ofList = some m
    rw [hvalues]
    exact congrArg some (SortedMap.ofList_toList m)

end Reader

/-! ### Records -/

namespace Record

variable {α : Type} {read : Reader α} {r : Record} {members : List (String × Json)}
  {fields : List String} {name : String} {j : Json} {a default : α}

/-- What was given for a record is what certain members say. -/
structure Holds (r : Record) (members : List (String × Json)) : Prop where
  given : ∀ name, r.given.lookup name = (members.lookup name).map Document.ofJson
  fits : ∀ m ∈ members, (Document.ofJson m.2).depth ≤ r.room

lemma Holds.exists_lookup (h : r.Holds members) (hj : members.lookup name = some j)
    (ha : read.Takes j a) :
    ∃ d, r.given.lookup name = some d ∧ read r.room d = some a := by
  obtain ⟨before, after, hmembers, -⟩ := List.lookup_eq_some_iff.mp hj
  have hmem : (name, j) ∈ members := hmembers ▸ List.mem_append_right _ List.mem_cons_self
  refine ⟨_, (h.given name).trans ?_, ha r.room (h.fits _ hmem)⟩
  rw [hj]
  rfl

lemma Holds.field? (h : r.Holds members) (name : String) (hj : members.lookup name = some j)
    (ha : read.Takes j a) : r.field? name read = some a := by
  obtain ⟨d, hd, hread⟩ := h.exists_lookup hj ha
  unfold Record.field?
  rw [hd]
  exact hread

lemma Holds.fieldOr? (h : r.Holds members) (name : String) (hj : members.lookup name = some j)
    (ha : read.Takes j a) : r.fieldOr? name read default = some a := by
  obtain ⟨d, hd, hread⟩ := h.exists_lookup hj ha
  unfold Record.fieldOr?
  rw [hd]
  exact hread

lemma Holds.fieldOr?_missing (h : r.Holds members) (name : String)
    (hj : members.lookup name = none) : r.fieldOr? name read default = some default := by
  have hnone := h.given name
  rw [hj] at hnone
  unfold Record.fieldOr?
  rw [hnone]
  rfl

/-- A field that may be null. -/
lemma Holds.optional? {o : Option α} (h : r.Holds members) (name : String)
    (hj : members.lookup name = some j) (ho : (Reader.optional read).Takes j o) :
    r.optional? name read = some o := h.fieldOr? name hj ho

/-- An optional field that is left out if there is nothing to write. -/
lemma Holds.optional?_map {write : α → Json} {o : Option α} (h : r.Holds members) (name : String)
    (hj : members.lookup name = o.map write) (hwrite : ∀ a ∈ o, read.Takes (write a) a)
    (hnull : ∀ a, (write a).isNull = false) : r.optional? name read = some o := by
  cases o with
  | none => exact h.fieldOr?_missing name hj
  | some a => exact h.fieldOr? name hj ((hwrite a rfl).some (hnull a))

/-- A list that is left out if it is empty. -/
lemma Holds.fieldOr?_list {write : α → Json} {as : List α} (h : r.Holds members) (name : String)
    (hj : members.lookup name = if as.isEmpty then none else some (ofList write as))
    (hwrite : ∀ a ∈ as, read.Takes (write a) a) :
    r.fieldOr? name (Reader.list read) [] = some as := by
  cases as with
  | nil => exact h.fieldOr?_missing name hj
  | cons a rest => exact h.fieldOr? name hj (Reader.takes_ofList hwrite)

lemma lookup_map {β γ : Type} (f : β → γ) (es : List (String × β)) (name : String) :
    (es.map fun e => (e.1, f e.2)).lookup name = (es.lookup name).map f := by
  induction es with
  | nil => rfl
  | cons e rest ih =>
    rw [List.map_cons, List.lookup_cons, List.lookup_cons]
    cases name == e.1 with
    | true => rfl
    | false => exact ih

/-- Where no name is given twice, the order of entries does not count. -/
lemma lookup_perm {β : Type} {es fs : List (String × β)} (h : es.Perm fs)
    (hnodup : (es.map Prod.fst).Nodup) (name : String) : es.lookup name = fs.lookup name := by
  induction h with
  | nil => rfl
  | cons e _ ih =>
    rw [List.lookup_cons, List.lookup_cons, ih (List.nodup_cons.mp hnodup).2]
  | swap e f rest =>
    have hne : f.1 ≠ e.1 := fun heq =>
      (List.nodup_cons.mp hnodup).1 (heq ▸ List.mem_cons_self)
    rw [List.lookup_cons, List.lookup_cons, List.lookup_cons, List.lookup_cons]
    cases hf : name == f.1 with
    | false => rfl
    | true =>
      obtain rfl := beq_iff_eq.mp hf
      rw [beq_false_of_ne hne]
  | trans hfirst _ ih ih' =>
    exact (ih hnodup).trans (ih' ((hfirst.map Prod.fst).nodup_iff.mp hnodup))

/-- Of members with declared names, none of them twice, everything is kept. -/
lemma members?_of_nodup (hnodup : (members.map Prod.fst).Nodup)
    (hdeclared : ∀ name ∈ members.map Prod.fst, name ∈ fields) :
    members? fields (Document.ofMemberList members) =
      some (members.map fun m => (m.1, Document.ofJson m.2)) := by
  induction members with
  | nil => rfl
  | cons m rest ih =>
    obtain ⟨hm, hrest⟩ := List.nodup_cons.mp hnodup
    obtain ⟨hfield, hfields⟩ := List.forall_mem_cons.mp hdeclared
    have hnames : (rest.map fun m => (m.1, Document.ofJson m.2)).map Prod.fst =
        rest.map Prod.fst := by
      rw [List.map_map]
      rfl
    unfold Document.ofMemberList members?
    rw [bind_of_eq_some rfl, bind_of_eq_some (ih hrest hfields),
      if_pos (List.contains_iff_mem.mpr hfield), hnames,
      if_neg fun hmem => hm (List.contains_iff_mem.mp hmem)]
    rfl

/-- Whether names are declared and none of them occurs twice. -/
def declares (fields names : List String) : Bool := decide names.Nodup && names.all fields.contains

/-- **A record is read from what is written of it**, if that are declared fields, none of them
twice. -/
lemma takes {body : Record → Option α} (fields : List String)
    (hdeclares : declares fields (members.map Prod.fst))
    (hbody : ∀ r, Holds r members → body r = some a) :
    Reader.Takes (fun room d => reader fields room d >>= body) (ofMembers members) a := by
  obtain ⟨hnodup, hdeclared⟩ := Bool.and_eq_true_iff.mp hdeclares
  have hnodup := of_decide_eq_true hnodup
  have hmembers := List.append_nil members
  have hperm : (Document.insertMembers [] members).Perm members :=
    (Document.insertMembers_perm (hmembers.symm ▸ hnodup)).trans (List.Perm.of_eq hmembers)
  have hnames := hperm.map Prod.fst
  have hread := members?_of_nodup (hnames.nodup_iff.mpr hnodup) fun name hname =>
    List.contains_iff_mem.mp (List.all_eq_true.mp hdeclared name (hnames.mem_iff.mp hname))
  intro room hroom
  cases room with
  | zero => exact absurd hroom (Nat.not_succ_le_zero _)
  | succ room =>
    have hrecord : reader fields (room + 1) (Document.ofJson (ofMembers members)) =
        some ⟨room, _⟩ := congrArg (Option.map (Record.mk room)) hread
    refine (bind_of_eq_some hrecord).trans (hbody _ ⟨fun name => ?_, fun m hm => ?_⟩)
    · exact (lookup_map _ _ name).trans
        (congrArg _ (lookup_perm hperm (hnames.nodup_iff.mpr hnodup) name))
    · exact Document.depthOfMembers_le_iff.mp (Nat.le_of_succ_le_succ hroom) m
        (hperm.mem_iff.mpr hm)

end Record

end Provisioning
