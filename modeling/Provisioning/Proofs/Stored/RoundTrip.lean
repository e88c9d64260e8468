import Mathlib.Data.List.Basic
import Mathlib.Data.Nat.Init
import Provisioning.Attribute.Codec
import Provisioning.Proofs.Session
import Provisioning.Proofs.Stored.Calendar
import Provisioning.Proofs.Stored.Document
import Provisioning.Proofs.Stored.Identifier

/-!
Values that are stored and read again.

Whatever way a value is read, as the stored form or from JSON, it has the kind under which it was
read and is written to a text that is read as this value (`AttributeValue.roundTrip`). Left out are
decimals, lists where an element contains the comma, and documents with a floating-point number that
is not read from its own text.
-/

namespace Provisioning.AttributeValue

/-! ### Truth values and lists -/

lemma boolean?_booleanText (b : Bool) : boolean? (booleanText b) = some b := by
  cases b <;> decide +kernel

section Commas

variable {items : List (List Char)}

lemma splitCommas_eq_splitOn (cs : List Char) : splitCommas cs = cs.splitOn ',' := by
  induction cs with
  | nil => rfl
  | cons c rest ih =>
    rw [splitCommas, List.splitOn_cons_eq_if_modifyHead, ih]
    obtain ⟨item, items, hsplit⟩ := List.exists_cons_of_ne_nil (List.splitOn_ne_nil ',' rest)
    rw [hsplit]
    simp

/-- Parts with commas between them are parted again, and each is parted at its own commas. -/
lemma splitCommas_intercalate (hne : items ≠ []) :
    splitCommas ([','].intercalate items) = items.flatMap splitCommas := by
  induction items with
  | nil => exact absurd rfl hne
  | cons cs rest ih =>
    rw [List.flatMap_cons]
    cases rest with
    | nil => rw [List.intercalate_singleton, List.flatMap_nil, List.append_nil]
    | cons cs' rest =>
      rw [List.intercalate_cons_cons, List.append_assoc, List.singleton_append,
        splitCommas_eq_splitOn, List.splitOn_append_cons_self, ← splitCommas_eq_splitOn,
        ← splitCommas_eq_splitOn, ih (List.cons_ne_nil _ _)]

end Commas

section Lists

variable {items : List String}

lemma emptyElement?_eq_none : emptyElement? items = none ↔ ∀ item ∈ items, item ≠ "" := by
  simp [emptyElement?, List.findIdx?_eq_none_iff]

lemma ofItems_of_nonempty (h : emptyElement? items = none) : ofItems items = .ok (.list items) := by
  unfold ofItems
  rw [h]

lemma emptyElement?_of_ofItems {v : AttributeValue} (h : ofItems items = .ok v) :
    v = .list items ∧ emptyElement? items = none := by
  unfold ofItems at h
  split at h
  next => cases h
  next hnone => exact ⟨(Except.ok.inj h).symm, hnone⟩

lemma toList_joinList (items : List String) :
    (joinList items).toList = [','].intercalate (items.map String.toList) :=
  String.toList_intercalate

/-- The empty text is the empty list, as no element is empty. -/
lemma joinList_ne_empty (hne : items ≠ []) (h : emptyElement? items = none) :
    joinList items ≠ "" := by
  obtain ⟨item, rest, rfl⟩ := List.exists_cons_of_ne_nil hne
  have hitem : item.toList ≠ [] := fun hnil =>
    emptyElement?_eq_none.mp h item List.mem_cons_self (String.toList_eq_nil_iff.mp hnil)
  intro hempty
  have hnil := congrArg String.toList hempty
  rw [toList_joinList, List.map_cons] at hnil
  cases rest with
  | nil =>
    rw [List.map_nil, List.intercalate_singleton] at hnil
    exact hitem hnil
  | cons item' rest =>
    rw [List.map_cons, List.intercalate_cons_cons, List.append_assoc] at hnil
    exact hitem (List.append_eq_nil_iff.mp hnil).1

/-- The elements of a list are read back, each parted at its own commas. -/
lemma splitList_joinList (h : emptyElement? items = none) :
    splitList (joinList items) = items.flatMap splitList := by
  by_cases hne : items = []
  · subst hne
    rfl
  · have hparts : ∀ item ∈ items,
        splitList item = (splitCommas item.toList).map String.ofList := fun item hitem =>
      if_neg (emptyElement?_eq_none.mp h item hitem)
    rw [List.flatMap_congr hparts, ← List.map_flatMap, ← List.flatMap_map]
    unfold splitList
    rw [if_neg (joinList_ne_empty hne h), toList_joinList,
      splitCommas_intercalate (mt List.map_eq_nil_iff.mp hne)]

lemma flatMap_splitList (h : emptyElement? items = none)
    (hcommas : ∀ item ∈ items, ',' ∉ item.toList) : items.flatMap splitList = items := by
  have hparts : ∀ item ∈ items, splitList item = [item] := fun item hitem => by
    unfold splitList
    rw [if_neg (emptyElement?_eq_none.mp h item hitem), splitCommas_eq_splitOn,
      List.splitOn_eq_singleton (hcommas item hitem), List.map_singleton, String.ofList_toList]
  rw [List.flatMap_congr hparts, List.flatMap_singleton']

end Lists

/-! ### What is read -/

/-- What holds of a value that was read, beyond what its type says. -/
def Regular : AttributeValue → Prop
  | timestamp t => t.InFourDigits
  | document j => j.Readable
  | list items => emptyElement? items = none
  | _ => True

/-- A value is read under a kind. -/
inductive ReadAs (kind : AttributeKind) (v : AttributeValue) : Prop where
  | stored (raw : String) (h : decode kind raw = .ok v)
  /-- Clients hand over what a text says. This only matters for documents. -/
  | wire (j : Json) (readable : kind = .document → j.Readable) (h : fromWire kind j = .ok v)

variable {kind : AttributeKind} {v : AttributeValue}

/-- A document that was read is what the text says. -/
lemma document_of_decode {raw : String} (h : decode .document raw = .ok v) :
    ∃ j, Json.ofText? raw = some j ∧ v = .document j := by
  unfold decode at h
  dsimp only at h
  split at h
  next j hj => exact ⟨j, hj, (Except.ok.inj h).symm⟩
  next => cases h

lemma regular_of_decode {raw : String} (h : decode kind raw = .ok v) :
    v.kind = kind ∧ v.Regular := by
  unfold decode at h
  dsimp only at h
  cases kind with
  | text =>
    obtain rfl := Except.ok.inj h
    exact ⟨rfl, trivial⟩
  | list =>
    obtain ⟨rfl, hnone⟩ := emptyElement?_of_ofItems h
    exact ⟨rfl, hnone⟩
  | timestamp =>
    dsimp only at h
    split at h
    next t ht =>
      obtain rfl := Except.ok.inj h
      exact ⟨rfl, Timestamp.inFourDigits_of_ofText? ht⟩
    next => cases h
  | document =>
    dsimp only at h
    split at h
    next j hj =>
      obtain rfl := Except.ok.inj h
      exact ⟨rfl, Json.readable_of_ofText? hj⟩
    next => cases h
  | _ =>
    dsimp only at h
    split at h
    next =>
      obtain rfl := Except.ok.inj h
      exact ⟨rfl, trivial⟩
    next => cases h

lemma regular_of_fromWire {j : Json} (hj : kind = .document → j.Readable) :
    fromWire kind j = .ok v → v.kind = kind ∧ v.Regular := by
  fun_cases fromWire kind j
  -- texts are decoded, a document may be any value, and a list is made of its items
  case case15 | case18 => exact regular_of_decode
  case case16 =>
    intro h
    obtain rfl := Except.ok.inj h
    exact ⟨rfl, hj rfl⟩
  case case17 =>
    intro h
    obtain ⟨items, -, h⟩ := bind_eq_ok.mp h
    obtain ⟨rfl, hnone⟩ := emptyElement?_of_ofItems h
    exact ⟨rfl, hnone⟩
  case case1 | case8 | case10 | case11 | case14 | case19 => exact nofun
  all_goals
    intro h
    obtain rfl := Except.ok.inj h
    exact ⟨rfl, trivial⟩

lemma ReadAs.regular (h : v.ReadAs kind) : v.kind = kind ∧ v.Regular := by
  cases h with
  | stored raw h => exact regular_of_decode h
  | wire j readable h => exact regular_of_fromWire readable h

/-! ### What is written -/

/-- The stored form leaves no doubt: no element of a list contains the comma, and every
floating-point number in a document is read from its own text. Without such numbers the latter says
nothing. -/
def Unambiguous : AttributeValue → Prop
  | list items => ∀ item ∈ items, ',' ∉ item.toList
  | document j => ∀ x ∈ j.reals, Json.Number.ReadsBack (.real x)
  | _ => True

lemma encodeAs_kind (hv : v.Regular) : encodeAs v.kind v = .ok v.encode := by
  unfold encodeAs
  rw [if_pos rfl]
  cases v with
  | list items =>
    dsimp only
    rw [ofItems_of_nonempty hv]
    rfl
  | _ => rfl

/-- The stored form is read as the value. -/
lemma decode_encode (hkind : v.kind ≠ .decimal) (hv : v.Regular) (hclear : v.Unambiguous) :
    decode v.kind v.encode = .ok v := by
  unfold decode encode
  cases v with
  | text s => rfl
  | boolean b =>
    dsimp only [kind]
    rw [boolean?_booleanText]
  | integer n h =>
    dsimp only [kind]
    rw [readInt64_integerText h]
  | decimal x => exact absurd rfl hkind
  | date d =>
    dsimp only [kind]
    rw [Date.ofText?_toText]
  | time t =>
    dsimp only [kind]
    rw [Time.ofText?_toText]
  | timestamp t =>
    dsimp only [kind]
    rw [Timestamp.ofText?_toText t hv]
  | uuid u =>
    dsimp only [kind]
    rw [Uuid.ofText?_toText]
  | document j =>
    dsimp only [kind]
    rw [(Json.ofText?_render_iff hv.ordered hclear).mpr hv.depth_le]
  | list items =>
    dsimp only [kind]
    rw [splitList_joinList hv, flatMap_splitList hv hclear, ofItems_of_nonempty hv]

/-- **What was read is stored and read again**: the value is written, what is written is read as the
value, and writing that gives the same text. -/
theorem roundTrip (hkind : kind ≠ .decimal) (hread : v.ReadAs kind) (hclear : v.Unambiguous) :
    ∃ s, encodeAs kind v = .ok s ∧ decode kind s = .ok v ∧
      ∀ v', decode kind s = .ok v' → encodeAs kind v' = .ok s := by
  obtain ⟨rfl, hv⟩ := hread.regular
  have hencode := encodeAs_kind hv
  have hdecode := decode_encode hkind hv hclear
  refine ⟨v.encode, hencode, hdecode, fun v' hv' => ?_⟩
  obtain rfl := Except.ok.inj (hdecode.symm.trans hv')
  exact hencode

/-- A document for the example. -/
def sampleDocument : Json :=
  .array [.number (.whole (-0x8000000000000000) (by decide)), .string "a\n", .array [],
    .object [("", .null), ("k", .bool true)]]

/-- The text in which the document is stored. -/
def sampleText : String :=
  "[-9223372036854775808,\"a\\n\",[],\x7b\"\":null,\"k\":true\x7d]"

theorem roundTrip_sample :
    sampleDocument.Readable ∧ (document sampleDocument).Unambiguous ∧
      encodeAs .document (.document sampleDocument) = .ok sampleText ∧
      decode .document sampleText = .ok (.document sampleDocument) := by
  have hreadable : sampleDocument.Readable :=
    { ordered := by
        have hlt : compare "" "k" = .lt := by decide
        simp [sampleDocument, Json.Ordered, Json.OrderedItems, Json.OrderedMembers,
          Entries.Ascending, hlt]
      depth_le := by decide }
  have hread : ReadAs .document (document sampleDocument) :=
    .wire sampleDocument (fun _ => hreadable) rfl
  have hclear : (document sampleDocument).Unambiguous := fun x hx => by cases hx
  obtain ⟨s, hencode, hdecode, -⟩ := roundTrip (by decide) hread hclear
  have hs : s = sampleText := (Except.ok.inj hencode).symm.trans (by decide +kernel)
  exact ⟨hreadable, hclear, hs ▸ hencode, hs ▸ hdecode⟩

end Provisioning.AttributeValue
