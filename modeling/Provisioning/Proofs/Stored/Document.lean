import Provisioning.Json.Document
import Provisioning.Proofs.Stored.Tokens

/-!
JSON values that are written and read back.

The tokens of a value are parsed as the document that says what the value is, but that its numbers
are those that are read from their numerals (`Document.written`). That document has a value where
there is room for it and every number is finite (`Json.isSome_ofText?_render`), and it is the value
itself exactly if every floating-point number is read back (`Json.ofText?_render_iff`). What a text
says never is nested too deeply (`Json.readable_of_ofText?`).
-/

namespace Provisioning.Json

/-- The members of every object are in order, and arrays and objects are not nested too deeply. -/
structure Readable (j : Json) : Prop where
  ordered : j.Ordered
  depth_le : (Document.ofJson j).depth ≤ Document.maxDepth

namespace Document

/-! ### What a text says -/

mutual

/-- What the text of a value says. -/
def written : Json → Document
  | .null => .null
  | .bool b => .bool b
  | .number n => .number n.numeral.value?
  | .string s => .string (some s)
  | .array items => .array (writtenItems items)
  | .object members => .object (writtenMembers members)

/-- What the texts of items say. -/
def writtenItems : List Json → List Document
  | [] => []
  | j :: js => written j :: writtenItems js

/-- What the texts of members say. -/
def writtenMembers : List (String × Json) → List (Option String × Document)
  | [] => []
  | (k, j) :: ms => (some k, written j) :: writtenMembers ms

end

section Run

variable {frames : List Frame}

/-- Where an item may come first, a value begins like anywhere else. -/
lemma run_firstItem (j : Json) (rest : List Token) :
    run (.firstItem frames) (j.tokens ++ rest) =
      run (.value (.items [] :: frames)) (j.tokens ++ rest) := by
  cases j with
  | array items => cases items <;> rfl
  | object members => cases members <;> rfl
  | _ => rfl

mutual

/-- The tokens of a value are read as what its text says. -/
lemma run_tokens : (j : Json) → (frames : List Frame) → (rest : List Token) →
    run (.value frames) (j.tokens ++ rest) = run (complete (written j) frames) rest
  | .null, _, _ => rfl
  | .bool _, _, _ => rfl
  | .number _, _, _ => rfl
  | .string _, _, _ => rfl
  | .array [], _, _ => rfl
  | .array (item :: items), frames, rest => by
    rw [tokens_array_cons_append]
    change run (.firstItem frames) _ = _
    rw [run_firstItem, run_tokens item]
    exact run_itemsTokens items [written item] frames rest
  | .object [], _, _ => rfl
  | .object ((k, item) :: members), frames, rest => by
    rw [tokens_object_cons_append]
    change run (.value (.member [] (some k) :: frames)) _ = _
    rw [run_tokens item]
    exact run_membersTokens members [(some k, written item)] frames rest

lemma run_itemsTokens : (items : List Json) → (read : List Document) → (frames : List Frame) →
    (rest : List Token) →
    run (.afterItem read frames) (itemsTokens items ++ .closeArray :: rest) =
      run (complete (.array (read.reverse ++ writtenItems items)) frames) rest
  | [], read, frames, rest => by
    rw [writtenItems, List.append_nil]
    rfl
  | item :: items, read, frames, rest => by
    rw [itemsTokens_cons_append]
    change run (.value (.items read :: frames)) _ = _
    rw [run_tokens item]
    have hitems := run_itemsTokens items (written item :: read) frames rest
    rw [List.reverse_cons, List.append_assoc] at hitems
    exact hitems

lemma run_membersTokens : (members : List (String × Json)) →
    (read : List (Option String × Document)) → (frames : List Frame) → (rest : List Token) →
    run (.afterMember read frames) (membersTokens members ++ .closeObject :: rest) =
      run (complete (.object (read.reverse ++ writtenMembers members)) frames) rest
  | [], read, frames, rest => by
    rw [writtenMembers, List.append_nil]
    rfl
  | (k, item) :: members, read, frames, rest => by
    rw [membersTokens_cons_append]
    change run (.value (.member read (some k) :: frames)) _ = _
    rw [run_tokens item]
    have hmembers := run_membersTokens members ((some k, written item) :: read) frames rest
    rw [List.reverse_cons, List.append_assoc] at hmembers
    exact hmembers

end

lemma ofText?_render (j : Json) : ofText? j.render = some (written j) := by
  have hrun := run_tokens j [] []
  rw [List.append_nil] at hrun
  unfold ofText? render
  rw [String.toList_ofList]
  unfold ofChars?
  rw [tokens?_chars, Option.bind_some, hrun]
  rfl

end Run

lemma readsBack_of_reals {n : Number} (h : ∀ x ∈ reals (.number n), Number.ReadsBack (.real x)) :
    n.ReadsBack := by
  cases n with
  | whole n hn => exact readsBack_whole n hn
  | real x => exact h x (List.mem_singleton_self x)

mutual

/-- Where floating-point numbers are read back, the text of a value says the value. -/
lemma written_eq_ofJson : (j : Json) → (∀ x ∈ j.reals, Number.ReadsBack (.real x)) →
    written j = ofJson j
  | .null, _ => rfl
  | .bool _, _ => rfl
  | .number _, h => congrArg Document.number (readsBack_iff.mp (readsBack_of_reals h))
  | .string _, _ => rfl
  | .array items, h => congrArg Document.array (writtenItems_eq_ofItems items h)
  | .object members, h => congrArg Document.object (writtenMembers_eq_ofMemberList members h)

lemma writtenItems_eq_ofItems : (items : List Json) →
    (∀ x ∈ realsOfItems items, Number.ReadsBack (.real x)) → writtenItems items = ofItems items
  | [], _ => rfl
  | item :: items, h => by
    rw [writtenItems, written_eq_ofJson item fun x hx => h x (List.mem_append_left _ hx),
      writtenItems_eq_ofItems items fun x hx => h x (List.mem_append_right _ hx)]
    rfl

lemma writtenMembers_eq_ofMemberList : (members : List (String × Json)) →
    (∀ x ∈ realsOfMembers members, Number.ReadsBack (.real x)) →
    writtenMembers members = ofMemberList members
  | [], _ => rfl
  | (k, item) :: members, h => by
    rw [writtenMembers, written_eq_ofJson item fun x hx => h x (List.mem_append_left _ hx),
      writtenMembers_eq_ofMemberList members fun x hx => h x (List.mem_append_right _ hx)]
    rfl

end

/-! ### Members -/

section Members

variable {members entries : List (String × Json)}

/-- Puts members into their places one after the other. -/
def insertMembers (entries members : List (String × Json)) : List (String × Json) :=
  members.foldl (fun ms m => Entries.insert m.1 m.2 ms) entries

lemma insert_of_last {k : String} {j : Json} (h : ∀ e ∈ entries, compare e.1 k = .lt) :
    Entries.insert k j entries = entries ++ [(k, j)] := by
  induction entries with
  | nil => rfl
  | cons e rest ih =>
    obtain ⟨he, hrest⟩ := List.forall_mem_cons.mp h
    rw [Entries.insert, Std.OrientedCmp.gt_of_lt he]
    exact congrArg (e :: ·) (ih hrest)

lemma insertMembers_of_ascending (h : Entries.Ascending (entries ++ members)) :
    insertMembers entries members = entries ++ members := by
  unfold insertMembers
  induction members generalizing entries with
  | nil => exact (List.append_nil entries).symm
  | cons m rest ih =>
    have hlast : ∀ e ∈ entries, compare e.1 m.1 = .lt := fun e he =>
      (List.pairwise_append.mp h).2.2 e he m List.mem_cons_self
    have hsplit : entries ++ m :: rest = (entries ++ [m]) ++ rest := by simp
    rw [List.foldl_cons, insert_of_last hlast, ih (hsplit ▸ h), hsplit]

/-- Members that are in order are the members of an object. -/
lemma ofMembers_of_ascending (h : Entries.Ascending members) :
    ofMembers members = .object members := by
  have hmembers : insertMembers [] members = members := insertMembers_of_ascending h
  exact congrArg Json.object hmembers

lemma ascending_insertMembers (h : Entries.Ascending entries) (members : List (String × Json)) :
    Entries.Ascending (insertMembers entries members) := by
  unfold insertMembers
  induction members generalizing entries with
  | nil => exact h
  | cons m rest ih => exact ih (Entries.ascending_insert m.1 m.2 h)

lemma mem_insertMembers {e : String × Json} (h : e ∈ insertMembers entries members) :
    e ∈ members ∨ e ∈ entries := by
  unfold insertMembers at h
  induction members generalizing entries with
  | nil => exact Or.inr h
  | cons m rest ih =>
    rcases ih h with h | h
    · exact Or.inl (List.mem_cons_of_mem m h)
    · rcases Entries.mem_insert h with rfl | h
      · exact Or.inl List.mem_cons_self
      · exact Or.inr h

lemma orderedMembers_iff : OrderedMembers members ↔ ∀ m ∈ members, m.2.Ordered := by
  induction members with
  | nil => exact iff_of_true trivial fun m hm => by cases hm
  | cons m rest ih =>
    rw [List.forall_mem_cons, ← ih]
    rfl

lemma depthOfMembers_le_iff {n : Nat} :
    depthOfMembers (ofMemberList members) ≤ n ↔ ∀ m ∈ members, (ofJson m.2).depth ≤ n := by
  induction members with
  | nil => exact iff_of_true (Nat.zero_le n) fun m hm => by cases hm
  | cons m rest ih =>
    rw [List.forall_mem_cons, ← ih]
    exact Nat.max_le

end Members

/-! ### Values of documents -/

mutual

/-- The document that says a value has that value, if there is room for it. -/
lemma value?_ofJson : (j : Json) → (room : Nat) → j.Ordered → (ofJson j).depth ≤ room →
    value? room (ofJson j) = some j
  | .null, _, _, _ => rfl
  | .bool _, _, _, _ => rfl
  | .number _, _, _, _ => rfl
  | .string _, _, _, _ => rfl
  | .array items, 0, _, h => absurd h (Nat.not_succ_le_zero _)
  | .array items, room + 1, hj, h => by
    rw [ofJson, value?, itemValues?_ofItems items room hj (Nat.le_of_succ_le_succ h)]
    rfl
  | .object members, 0, _, h => absurd h (Nat.not_succ_le_zero _)
  | .object members, room + 1, hj, h => by
    rw [ofJson, value?, memberValues?_ofMemberList members room hj.2 (Nat.le_of_succ_le_succ h)]
    exact congrArg some (ofMembers_of_ascending hj.1)

lemma itemValues?_ofItems : (items : List Json) → (room : Nat) → OrderedItems items →
    depthOfItems (ofItems items) ≤ room → itemValues? room (ofItems items) = some items
  | [], _, _, _ => rfl
  | item :: items, room, hj, h => by
    obtain ⟨hhead, htail⟩ := Nat.max_le.mp h
    rw [ofItems, itemValues?, value?_ofJson item room hj.1 hhead,
      itemValues?_ofItems items room hj.2 htail]
    rfl

lemma memberValues?_ofMemberList : (members : List (String × Json)) → (room : Nat) →
    OrderedMembers members → depthOfMembers (ofMemberList members) ≤ room →
    memberValues? room (ofMemberList members) = some members
  | [], _, _, _ => rfl
  | (k, item) :: members, room, hj, h => by
    obtain ⟨hhead, htail⟩ := Nat.max_le.mp h
    rw [ofMemberList, memberValues?, value?_ofJson item room hj.1 hhead,
      memberValues?_ofMemberList members room hj.2 htail]
    rfl

end

mutual

/-- The value of a document has its members in order, and fits into the room. -/
lemma fits_of_value? : (d : Document) → (room : Nat) → (j : Json) → value? room d = some j →
    j.Ordered ∧ (ofJson j).depth ≤ room
  | .null, room, j, h => by
    obtain rfl := Option.some.inj h
    exact ⟨trivial, Nat.zero_le room⟩
  | .bool _, room, j, h => by
    obtain rfl := Option.some.inj h
    exact ⟨trivial, Nat.zero_le room⟩
  | .number _, room, j, h => by
    obtain ⟨n, -, rfl⟩ := Option.map_eq_some_iff.mp h
    exact ⟨trivial, Nat.zero_le room⟩
  | .string _, room, j, h => by
    obtain ⟨s, -, rfl⟩ := Option.map_eq_some_iff.mp h
    exact ⟨trivial, Nat.zero_le room⟩
  | .array items, 0, j, h => by cases h
  | .array items, room + 1, j, h => by
    obtain ⟨js, hjs, rfl⟩ := Option.map_eq_some_iff.mp h
    obtain ⟨hord, hdepth⟩ := fits_of_itemValues? items room js hjs
    exact ⟨hord, Nat.succ_le_succ hdepth⟩
  | .object members, 0, j, h => by cases h
  | .object members, room + 1, j, h => by
    obtain ⟨ms, hms, rfl⟩ := Option.map_eq_some_iff.mp h
    have hfits := fits_of_memberValues? members room ms hms
    have hmem : ∀ m ∈ insertMembers [] ms, m ∈ ms := fun m hm =>
      (mem_insertMembers hm).resolve_right List.not_mem_nil
    refine ⟨⟨ascending_insertMembers List.Pairwise.nil ms, orderedMembers_iff.mpr fun m hm => ?_⟩,
      Nat.succ_le_succ (depthOfMembers_le_iff.mpr fun m hm => ?_)⟩
    · exact (hfits m (hmem m hm)).1
    · exact (hfits m (hmem m hm)).2

lemma fits_of_itemValues? : (ds : List Document) → (room : Nat) → (js : List Json) →
    itemValues? room ds = some js → OrderedItems js ∧ depthOfItems (ofItems js) ≤ room
  | [], room, js, h => by
    obtain rfl := Option.some.inj h
    exact ⟨trivial, Nat.zero_le room⟩
  | d :: ds, room, js, h => by
    obtain ⟨j, hj, h⟩ := Option.bind_eq_some_iff.mp h
    obtain ⟨rest, hrest, h⟩ := Option.bind_eq_some_iff.mp h
    obtain rfl := Option.some.inj h
    obtain ⟨hord, hdepth⟩ := fits_of_value? d room j hj
    obtain ⟨hords, hdepths⟩ := fits_of_itemValues? ds room rest hrest
    exact ⟨⟨hord, hords⟩, Nat.max_le.mpr ⟨hdepth, hdepths⟩⟩

lemma fits_of_memberValues? : (members : List (Option String × Document)) → (room : Nat) →
    (ms : List (String × Json)) → memberValues? room members = some ms →
    ∀ m ∈ ms, m.2.Ordered ∧ (ofJson m.2).depth ≤ room
  | [], room, ms, h => by
    obtain rfl := Option.some.inj h
    intro m hm
    cases hm
  | (key, d) :: members, room, ms, h => by
    obtain ⟨k, -, h⟩ := Option.bind_eq_some_iff.mp h
    obtain ⟨j, hj, h⟩ := Option.bind_eq_some_iff.mp h
    obtain ⟨rest, hrest, h⟩ := Option.bind_eq_some_iff.mp h
    obtain rfl := Option.some.inj h
    exact List.forall_mem_cons.mpr
      ⟨fits_of_value? d room j hj, fits_of_memberValues? members room rest hrest⟩

end

section Rooms

variable {room : Nat}

lemma isSome_itemValues?_cons {d : Document} {ds : List Document} :
    (itemValues? room (d :: ds)).isSome ↔
      (value? room d).isSome ∧ (itemValues? room ds).isSome := by
  rw [itemValues?]
  cases value? room d <;> cases itemValues? room ds <;> simp

lemma isSome_memberValues?_cons {k : String} {d : Document}
    {ms : List (Option String × Document)} :
    (memberValues? room ((some k, d) :: ms)).isSome ↔
      (value? room d).isSome ∧ (memberValues? room ms).isSome := by
  rw [memberValues?]
  cases value? room d <;> cases memberValues? room ms <;> simp

end Rooms

mutual

/-- The text of a value says some value if that fits into the room and its numbers are finite as
they are read. -/
lemma isSome_value?_written : (j : Json) → (room : Nat) →
    ((value? room (written j)).isSome ↔
      (ofJson j).depth ≤ room ∧ ∀ x ∈ j.reals, (Number.real x).numeral.value?.isSome)
  | .null, room => iff_of_true rfl ⟨Nat.zero_le room, nofun⟩
  | .bool _, room => iff_of_true rfl ⟨Nat.zero_le room, nofun⟩
  | .number (.whole n h), room => by
    refine iff_of_true ?_ ⟨Nat.zero_le room, nofun⟩
    rw [written, value?, readsBack_iff.mp (readsBack_whole n h)]
    rfl
  | .number (.real x), room => by
    rw [written, value?, Option.isSome_map]
    exact ⟨fun h => ⟨Nat.zero_le room, List.forall_mem_singleton.mpr h⟩,
      fun h => h.2 x (List.mem_singleton_self x)⟩
  | .string _, room => iff_of_true rfl ⟨Nat.zero_le room, nofun⟩
  | .array items, 0 => iff_of_false nofun fun h => Nat.not_succ_le_zero _ h.1
  | .array items, room + 1 => by
    rw [written, value?, Option.isSome_map, isSome_itemValues?_written items room]
    exact and_congr_left' Nat.succ_le_succ_iff.symm
  | .object members, 0 => iff_of_false nofun fun h => Nat.not_succ_le_zero _ h.1
  | .object members, room + 1 => by
    rw [written, value?, Option.isSome_map, isSome_memberValues?_written members room]
    exact and_congr_left' Nat.succ_le_succ_iff.symm

lemma isSome_itemValues?_written : (items : List Json) → (room : Nat) →
    ((itemValues? room (writtenItems items)).isSome ↔ depthOfItems (ofItems items) ≤ room ∧
      ∀ x ∈ realsOfItems items, (Number.real x).numeral.value?.isSome)
  | [], room => iff_of_true rfl ⟨Nat.zero_le room, nofun⟩
  | item :: items, room => by
    rw [writtenItems, isSome_itemValues?_cons, isSome_value?_written item room,
      isSome_itemValues?_written items room, and_and_and_comm]
    exact and_congr Nat.max_le.symm List.forall_mem_append.symm

lemma isSome_memberValues?_written : (members : List (String × Json)) → (room : Nat) →
    ((memberValues? room (writtenMembers members)).isSome ↔
      depthOfMembers (ofMemberList members) ≤ room ∧
        ∀ x ∈ realsOfMembers members, (Number.real x).numeral.value?.isSome)
  | [], room => iff_of_true rfl ⟨Nat.zero_le room, nofun⟩
  | (k, item) :: members, room => by
    rw [writtenMembers, isSome_memberValues?_cons, isSome_value?_written item room,
      isSome_memberValues?_written members room, and_and_and_comm]
    exact and_congr Nat.max_le.symm List.forall_mem_append.symm

end

lemma ascending_iff_keys {members : List (String × Json)} :
    Entries.Ascending members ↔
      (members.map Prod.fst).Pairwise fun k l => compare k l = .lt := by
  unfold Entries.Ascending
  rw [List.pairwise_map]

/-- The members of an object are read under their names, in their order. -/
lemma keys_of_memberValues? : {members ms : List (String × Json)} → {room : Nat} →
    memberValues? room (writtenMembers members) = some ms →
    ms.map Prod.fst = members.map Prod.fst
  | [], ms, room, h => by
    obtain rfl := Option.some.inj h
    rfl
  | (k, item) :: members, ms, room, h => by
    obtain ⟨j, -, h⟩ := Option.bind_eq_some_iff.mp h
    obtain ⟨rest, hrest, h⟩ := Option.bind_eq_some_iff.mp h
    obtain rfl := Option.some.inj h
    exact congrArg (k :: ·) (keys_of_memberValues? hrest)

mutual

/-- A value that its text says holds only floating-point numbers that are read back. -/
lemma readsBack_of_value?_written : (j : Json) → (room : Nat) → j.Ordered →
    value? room (written j) = some j → ∀ x ∈ j.reals, Number.ReadsBack (.real x)
  | .null, _, _, _ => nofun
  | .bool _, _, _, _ => nofun
  | .number (.whole n h), _, _, _ => nofun
  | .number (.real x), room, _, h => by
    obtain ⟨n, hn, heq⟩ := Option.map_eq_some_iff.mp h
    obtain rfl := Json.number.inj heq
    exact List.forall_mem_singleton.mpr (readsBack_iff.mpr hn)
  | .string _, _, _, _ => nofun
  | .array items, 0, _, h => nomatch h
  | .array items, room + 1, hord, h => by
    obtain ⟨js, hjs, heq⟩ := Option.map_eq_some_iff.mp h
    obtain rfl := Json.array.inj heq
    exact readsBack_of_itemValues?_written js room hord hjs
  | .object members, 0, _, h => nomatch h
  | .object members, room + 1, hord, h => by
    obtain ⟨ms, hms, heq⟩ := Option.map_eq_some_iff.mp h
    have hascending : Entries.Ascending ms := by
      rw [ascending_iff_keys, keys_of_memberValues? hms]
      exact ascending_iff_keys.mp hord.1
    rw [ofMembers_of_ascending hascending] at heq
    obtain rfl := Json.object.inj heq
    exact readsBack_of_memberValues?_written ms room hord.2 hms

lemma readsBack_of_itemValues?_written : (items : List Json) → (room : Nat) →
    OrderedItems items → itemValues? room (writtenItems items) = some items →
    ∀ x ∈ realsOfItems items, Number.ReadsBack (.real x)
  | [], _, _, _ => nofun
  | item :: items, room, hord, h => by
    obtain ⟨j, hj, h⟩ := Option.bind_eq_some_iff.mp h
    obtain ⟨rest, hrest, h⟩ := Option.bind_eq_some_iff.mp h
    obtain ⟨rfl, rfl⟩ := List.cons.inj (Option.some.inj h)
    exact List.forall_mem_append.mpr ⟨readsBack_of_value?_written j room hord.1 hj,
      readsBack_of_itemValues?_written rest room hord.2 hrest⟩

lemma readsBack_of_memberValues?_written : (members : List (String × Json)) → (room : Nat) →
    OrderedMembers members → memberValues? room (writtenMembers members) = some members →
    ∀ x ∈ realsOfMembers members, Number.ReadsBack (.real x)
  | [], _, _, _ => nofun
  | (k, item) :: members, room, hord, h => by
    obtain ⟨j, hj, h⟩ := Option.bind_eq_some_iff.mp h
    obtain ⟨rest, hrest, h⟩ := Option.bind_eq_some_iff.mp h
    obtain ⟨heq, rfl⟩ := List.cons.inj (Option.some.inj h)
    obtain ⟨-, rfl⟩ := Prod.mk.inj heq
    exact List.forall_mem_append.mpr ⟨readsBack_of_value?_written j room hord.1 hj,
      readsBack_of_memberValues?_written rest room hord.2 hrest⟩

end

end Document

/-- What a text says has its members in order and is not nested too deeply. -/
lemma readable_of_ofText? {s : String} {j : Json} (h : ofText? s = some j) : j.Readable := by
  obtain ⟨d, -, hd⟩ := Option.bind_eq_some_iff.mp h
  obtain ⟨hord, hdepth⟩ := Document.fits_of_value? d _ j hd
  exact ⟨hord, hdepth⟩

/-- The text of what is read tells what it is. -/
lemma ofText?_of_render {s : String} {j : Json} (h : (ofText? s).map render = some j.render) :
    ofText? s = some j := by
  obtain ⟨k, hk, hrender⟩ := Option.map_eq_some_iff.mp h
  rw [hk, render_inj hrender]

/-- **A JSON value is read from its own text** exactly if it is not nested too deeply. -/
theorem ofText?_render_iff {j : Json} (hord : j.Ordered)
    (hreals : ∀ x ∈ j.reals, Number.ReadsBack (.real x)) :
    ofText? j.render = some j ↔ (Document.ofJson j).depth ≤ Document.maxDepth := by
  refine ⟨fun h => (readable_of_ofText? h).depth_le, fun hdepth => ?_⟩
  unfold ofText?
  rw [Document.ofText?_render, Document.written_eq_ofJson j hreals, Option.bind_some,
    Document.value?_ofJson j _ hord hdepth]

/-- Some value is read from the text of a value exactly if that is not nested too deeply and its
floating-point numbers are finite as they are read. -/
lemma isSome_ofText?_render {j : Json} :
    (ofText? j.render).isSome ↔ (Document.ofJson j).depth ≤ Document.maxDepth ∧
      ∀ x ∈ j.reals, (Number.real x).numeral.value?.isSome := by
  unfold ofText?
  rw [Document.ofText?_render, Option.bind_some]
  exact Document.isSome_value?_written j _

/-- The value itself is read only if its floating-point numbers are read back. -/
lemma readsBack_of_ofText?_render {j : Json} (hord : j.Ordered) (h : ofText? j.render = some j) :
    ∀ x ∈ j.reals, Number.ReadsBack (.real x) := by
  unfold ofText? at h
  rw [Document.ofText?_render, Option.bind_some] at h
  exact Document.readsBack_of_value?_written j _ hord h

end Provisioning.Json
