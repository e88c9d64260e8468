import Mathlib.Data.List.Infix
import Provisioning.Proofs.Classification
import Provisioning.Proofs.Stored.Reals
import Provisioning.Proofs.Stored.RoundTrip

/-!
What can be read of the values that are stored.

The elements of a list are stored with commas between them, and a list that is read is parted at
every comma, also at those inside of elements. So a list comes back with the parts of its elements
(`AttributeValue.parted`), and it does not come back at all if one of the parts is empty. That is so
where a comma is the first or the last character of an element, or follows another one. Validations
look at elements only as wholes, and accept such a list. A document comes back if it is not nested
more deeply than a text may be and its numbers are finite as they are read, but with other numbers
where the floating-point ones are not read from their own text. Every value of another kind comes
back as it was (`Schema.exists_decode_iff_legible`).
-/

namespace Provisioning

namespace AttributeValue

/-! ### Commas in elements -/

/-- No comma is at an end or next to another comma. -/
structure CommasApart (cs : List Char) : Prop where
  first : ¬[','] <+: cs
  last : ¬[','] <:+ cs
  adjacent : ¬[',', ','] <:+: cs

section Commas

variable {cs : List Char}

/-- The first part is empty where nothing or a comma is first. -/
lemma nil_not_mem_splitOn :
    [] ∉ cs.splitOn ',' ↔ cs ≠ [] ∧ ¬[','] <+: cs ∧ [] ∉ (cs.splitOn ',').tail := by
  cases cs with
  | nil => simp
  | cons c rest =>
    obtain ⟨item, items, hsplit⟩ := List.exists_cons_of_ne_nil (List.splitOn_ne_nil ',' rest)
    rw [List.splitOn_cons_eq_if_modifyHead, hsplit]
    by_cases hc : c = ',' <;> simp [hc, List.cons_prefix_cons, Ne.symm]

/-- A part after the first one is empty where a comma is last or follows another comma. -/
lemma nil_not_mem_tail_splitOn :
    [] ∉ (cs.splitOn ',').tail ↔ ¬[','] <:+ cs ∧ ¬[',', ','] <:+: cs := by
  induction cs with
  | nil => simp
  | cons c rest ih =>
    obtain ⟨item, items, hsplit⟩ := List.exists_cons_of_ne_nil (List.splitOn_ne_nil ',' rest)
    rw [List.suffix_cons_iff, List.infix_cons_iff, List.cons_prefix_cons]
    by_cases hc : c = ','
    · subst hc
      have htail : ((',' :: rest).splitOn ',').tail = rest.splitOn ',' := by
        simp [List.splitOn_cons_eq_if_modifyHead]
      rw [htail, nil_not_mem_splitOn, ih]
      grind
    · have htail : ((c :: rest).splitOn ',').tail = (rest.splitOn ',').tail := by
        simp [List.splitOn_cons_eq_if_modifyHead, hc, hsplit]
      rw [htail, ih]
      grind

/-- Commas that are apart leave no empty part. -/
lemma nil_not_mem_splitCommas (hne : cs ≠ []) : [] ∉ splitCommas cs ↔ CommasApart cs := by
  rw [splitCommas_eq_splitOn, nil_not_mem_splitOn, nil_not_mem_tail_splitOn]
  exact ⟨fun ⟨_, hfirst, hlast, htwo⟩ => ⟨hfirst, hlast, htwo⟩,
    fun h => ⟨hne, h.first, h.last, h.adjacent⟩⟩

end Commas

/-- A text is what its parts are with commas between them. -/
lemma joinList_splitList (s : String) : joinList (splitList s) = s := by
  rw [← String.toList_inj, toList_joinList]
  unfold splitList
  split
  next h =>
    subst h
    rfl
  next =>
    have hid : String.toList ∘ String.ofList = id := funext fun _ => String.toList_ofList
    rw [List.map_map, hid, List.map_id, splitCommas_eq_splitOn, List.intercalate_splitOn]

/-! ### What comes back -/

/-- The value that comes back: the elements of a list are parted at their commas. -/
def parted : AttributeValue → AttributeValue
  | list items => list (items.flatMap splitList)
  | v => v

/-- Nothing keeps what is stored from being read: commas in elements are apart, and a document is
nested no more deeply than a text may be and has no number that is read as an infinite one. -/
def Legible : AttributeValue → Prop
  | list items => ∀ item ∈ items, CommasApart item.toList
  | document j => (Json.Document.ofJson j).depth ≤ Json.Document.maxDepth ∧
      ∀ x ∈ j.reals, (Json.Number.real x).numeral.value?.isSome
  | _ => True

/-- Every floating-point number in a document is read from its own text. -/
def KeepsReals : AttributeValue → Prop
  | document j => ∀ x ∈ j.reals, Json.Number.ReadsBack (.real x)
  | _ => True

/-- Floating-point numbers with few digits are kept. -/
lemma keepsReals_of_short {j : Json} (h : ∀ x ∈ j.reals, (Json.Number.real x).numeral.Short) :
    (document j).KeepsReals := fun x hx => Json.readsBack_of_short (h x hx)

/-- What holds of a value that was accepted: what holds of one that was read, but for the depth of
documents. -/
def Proper : AttributeValue → Prop
  | document j => j.Ordered
  | v => v.Regular

section Values

variable {kind : AttributeKind} {v w : AttributeValue}

lemma Regular.proper (h : v.Regular) : v.Proper := by
  cases v with
  | document j => exact h.ordered
  | _ => exact h

lemma Proper.regular (h : v.Proper) (hlegible : v.Legible) : v.Regular := by
  cases v with
  | document j => exact ⟨h, hlegible.1⟩
  | _ => exact h

/-- A value that is read from JSON is regular, or it is the JSON value itself. -/
lemma regular_or_document_of_fromWire {j : Json} (h : fromWire kind j = .ok v) :
    v.kind = kind ∧ (v.Regular ∨ v = document j) := by
  by_cases hdocument : kind = .document
  · subst hdocument
    cases j with
    | null => cases h
    | string s =>
      change decode .document s = .ok v at h
      obtain ⟨hv, hregular⟩ := regular_of_decode h
      exact ⟨hv, Or.inl hregular⟩
    | _ =>
      obtain rfl := Except.ok.inj h
      exact ⟨rfl, Or.inr rfl⟩
  · obtain ⟨hv, hregular⟩ := regular_of_fromWire (fun hd => absurd hd hdocument) h
    exact ⟨hv, Or.inl hregular⟩

lemma proper_of_fromWire {j : Json} (hj : j.Ordered)
    (h : fromWire kind j = .ok v) : v.kind = kind ∧ v.Proper := by
  obtain ⟨hv, hregular | rfl⟩ := regular_or_document_of_fromWire h
  · exact ⟨hv, hregular.proper⟩
  · exact ⟨hv, hj⟩

/-- An element has no empty part if its commas are apart. -/
lemma forall_mem_splitList {item : String} (hne : item ≠ "") :
    (∀ part ∈ splitList item, part ≠ "") ↔ CommasApart item.toList := by
  rw [← nil_not_mem_splitCommas (mt String.toList_eq_nil_iff.mp hne)]
  unfold splitList
  rw [if_neg hne, List.forall_mem_map]
  refine ⟨fun h hnil => h [] hnil rfl, fun h part hpart hempty => h ?_⟩
  rwa [← String.toList_ofList (l := part), hempty] at hpart

lemma emptyElement?_parts {items : List String} (h : emptyElement? items = none) :
    emptyElement? (items.flatMap splitList) = none ↔ (list items).Legible := by
  have hne := emptyElement?_eq_none.mp h
  rw [emptyElement?_eq_none]
  refine ⟨fun hparts item hitem => ?_, fun hlegible part hpart => ?_⟩
  · exact (forall_mem_splitList (hne item hitem)).mp fun part hpart =>
      hparts part (List.mem_flatMap.mpr ⟨item, hitem, hpart⟩)
  · obtain ⟨item, hitem, hpart⟩ := List.mem_flatMap.mp hpart
    exact (forall_mem_splitList (hne item hitem)).mpr (hlegible item hitem) part hpart

lemma decode_of_ofText? {raw : String} {j : Json} (h : Json.ofText? raw = some j) :
    decode .document raw = .ok (document j) := by
  unfold decode
  dsimp only
  rw [h]

/-- What is stored can be read exactly if it is legible. -/
lemma exists_decode_encode_iff (hkind : v.kind ≠ .decimal) (hv : v.Proper) :
    (∃ w, decode v.kind v.encode = .ok w) ↔ v.Legible := by
  cases v with
  | list items =>
    have hdecode : decode .list (list items).encode = ofItems (items.flatMap splitList) :=
      congrArg ofItems (splitList_joinList hv)
    rw [← emptyElement?_parts hv]
    change (∃ w, decode .list (list items).encode = .ok w) ↔ _
    rw [hdecode]
    exact ⟨fun ⟨w, hw⟩ => (emptyElement?_of_ofItems hw).2,
      fun h => ⟨_, ofItems_of_nonempty h⟩⟩
  | document j =>
    change (∃ w, decode .document j.render = .ok w) ↔ _ ∧ _
    rw [← Json.isSome_ofText?_render, Option.isSome_iff_exists]
    refine ⟨fun ⟨w, hw⟩ => ?_, fun ⟨j', hj'⟩ => ⟨_, decode_of_ofText? hj'⟩⟩
    obtain ⟨j', hj', -⟩ := document_of_decode hw
    exact ⟨j', hj'⟩
  | _ => exact iff_of_true ⟨_, decode_encode hkind hv trivial⟩ trivial

/-- What is legible and keeps its numbers comes back, a list with the parts of its elements. -/
lemma decode_encode_of_legible (hkind : v.kind ≠ .decimal) (hv : v.Proper) (h : v.Legible)
    (hreals : v.KeepsReals) : decode v.kind v.encode = .ok v.parted := by
  have hregular := hv.regular h
  cases v with
  | list items =>
    change ofItems (splitList (joinList items)) = .ok (list (items.flatMap splitList))
    rw [splitList_joinList hregular, ofItems_of_nonempty ((emptyElement?_parts hregular).mpr h)]
  | document j => exact decode_encode hkind hregular hreals
  | _ => exact decode_encode hkind hregular trivial

/-- What comes back is stored as before. -/
lemma encode_parted (hv : v.Proper) : v.parted.encode = v.encode := by
  cases v with
  | list items =>
    change joinList (items.flatMap splitList) = joinList items
    rw [← splitList_joinList hv, joinList_splitList]
  | _ => rfl

/-- A document whose text is read as one with the same text keeps its numbers. -/
lemma keepsReals_of_decode_encode (hv : v.Proper) (h : decode v.kind v.encode = .ok w)
    (hencode : encodeAs v.kind w = .ok v.encode) : v.KeepsReals := by
  cases v with
  | document j =>
    obtain ⟨j', hj', rfl⟩ := document_of_decode h
    have hrender : j'.render = j.render := Except.ok.inj hencode
    obtain rfl := Json.render_inj hrender
    exact Json.readsBack_of_ofText?_render hv hj'
  | _ => trivial

lemma decode_iff (hkind : v.kind ≠ .decimal) (hv : v.Proper) :
    ((∃ w, decode v.kind v.encode = .ok w) ↔ v.Legible) ∧
      ((∃ w, decode v.kind v.encode = .ok w ∧ encodeAs v.kind w = .ok v.encode) ↔
        v.Legible ∧ v.KeepsReals) ∧
      (v.KeepsReals → ∀ w, decode v.kind v.encode = .ok w → w = v.parted) := by
  have hlegible := exists_decode_encode_iff hkind hv
  refine ⟨hlegible, ⟨fun ⟨w, hw, hencode⟩ => ?_, fun ⟨h, hreals⟩ => ?_⟩, fun hreals w hw => ?_⟩
  · exact ⟨hlegible.mp ⟨w, hw⟩, keepsReals_of_decode_encode hv hw hencode⟩
  · have hparted := decode_encode_of_legible hkind hv h hreals
    obtain ⟨hk, hregular⟩ := regular_of_decode hparted
    have hencode := encodeAs_kind hregular
    rw [hk, encode_parted hv] at hencode
    exact ⟨_, hparted, hencode⟩
  · have hparted := decode_encode_of_legible hkind hv (hlegible.mp ⟨w, hw⟩) hreals
    exact Except.ok.inj (hw.symm.trans hparted)

end Values

end AttributeValue

namespace Schema

open AttributeValue

variable {s : Schema} {enforceReadOnly : Bool} {state : RecordState}
  {proposed : SortedMap String Json} {taken : SortedSet Uuid} {a : AcceptedValue}

/-- An accepted value is one of the attribute by whose name it is reported. -/
lemma Coherent.exists_of_accepted (hs : s.Coherent)
    (ha : a ∈ ((s.check enforceReadOnly state proposed).finish taken).values) :
    ∃ d j name, s.resolve a.name = some d ∧ a.attributeId = d.id ∧ a.encoded = a.value.encode ∧
      proposed.get? name = some j ∧ fromWire d.kind j = .ok a.value := by
  obtain ⟨d, v, hfound, rfl⟩ := Finding.mem_acceptedValues.mp ha
  obtain ⟨hd, -, j, ⟨name, ⟨hj, -⟩, -⟩, -, hread, -⟩ := hs.accepted_mem_findings.mp hfound
  exact ⟨d, j, name, hs.resolve_name hd, rfl, rfl, hj, hread⟩

/-- **An accepted value can be read from what is stored for it exactly if it is legible**, and what
is read is stored as the same text exactly if the value also keeps its floating-point numbers. Then
it is the value itself, or for a list what its commas make of it. -/
theorem exists_decode_iff_legible (hs : s.Built)
    (hproposed : ∀ name j, proposed.get? name = some j → j.Ordered)
    (ha : a ∈ ((s.check enforceReadOnly state proposed).finish taken).values) :
    ∃ d, s.resolve a.name = some d ∧ a.attributeId = d.id ∧ (d.kind ≠ .decimal →
      ((∃ w, decode d.kind a.encoded = .ok w) ↔ a.value.Legible) ∧
      ((∃ w, decode d.kind a.encoded = .ok w ∧ encodeAs d.kind w = .ok a.encoded) ↔
        a.value.Legible ∧ a.value.KeepsReals) ∧
      (a.value.KeepsReals → ∀ w, decode d.kind a.encoded = .ok w → w = a.value.parted)) := by
  obtain ⟨d, j, name, hresolve, hid, hencoded, hj, hread⟩ := hs.coherent.exists_of_accepted ha
  refine ⟨d, hresolve, hid, fun hkind => ?_⟩
  obtain ⟨hk, hproper⟩ := proper_of_fromWire (hproposed name j hj) hread
  rw [hencoded, ← hk]
  exact decode_iff (hk ▸ hkind) hproper

/-- A schema with one attribute, of which the values are lists. -/
def tagSchema : Schema :=
  ⟨.ofList [("tags", ⟨.plain 1 "tags" .list, none⟩)]⟩

/-- A list of one tag. -/
def oneTag (tag : String) : SortedMap String Json := .ofList [("tags", .array [.string tag])]

lemma built_tagSchema : tagSchema.Built := by
  have hmade : (ofDefinitions tagSchema.definitions).toOption = some tagSchema := by
    decide +kernel
  exact .of_toOption hmade

lemma ordered_oneTag (tag : String) : ∀ name j, (oneTag tag).get? name = some j → j.Ordered := by
  intro name j h
  have hlist : (oneTag tag).toList = [("tags", .array [.string tag])] := rfl
  have hmem := SortedMap.get?_eq_some_iff.mp h
  rw [hlist, List.mem_singleton] at hmem
  obtain ⟨rfl, rfl⟩ := Prod.mk.inj hmem
  exact ⟨trivial, trivial⟩

theorem exists_decode_iff_legible_tags :
    let v := (tagSchema.check false .new (oneTag "a,b")).finish ∅
    v.values = [⟨1, "tags", .list ["a,b"], "a,b"⟩] ∧
      ∃ d, tagSchema.resolve "tags" = some d ∧ decode d.kind "a,b" = .ok (.list ["a", "b"]) ∧
        encodeAs d.kind (.list ["a", "b"]) = .ok "a,b" := by
  have hvalues : ((tagSchema.check false .new (oneTag "a,b")).finish ∅).values =
      [⟨1, "tags", .list ["a,b"], "a,b"⟩] := rfl
  have hlegible : (list ["a,b"]).Legible := fun item hitem => by
    obtain rfl := List.mem_singleton.mp hitem
    exact ⟨by decide, by decide, by decide⟩
  obtain ⟨d, hresolve, -, hd⟩ := exists_decode_iff_legible built_tagSchema (ordered_oneTag "a,b")
    (hvalues ▸ List.mem_singleton_self _)
  have hkind : d.kind = .list := congrArg AttributeDefinition.kind (Option.some.inj hresolve).symm
  obtain ⟨-, hkept, hparted⟩ := hd (by rw [hkind]; decide)
  obtain ⟨w, hw, hencode⟩ := hkept.mpr ⟨hlegible, trivial⟩
  obtain rfl : w = list ["a", "b"] :=
    (hparted trivial w hw).trans (congrArg list (by decide +kernel))
  exact ⟨hvalues, d, hresolve, hw, hencode⟩

/-- A schema with one attribute, of which the values are documents. -/
def noteSchema : Schema :=
  ⟨.ofList [("note", ⟨.plain 1 "note" .document, none⟩)]⟩

lemma built_noteSchema : noteSchema.Built := by
  have hmade : (ofDefinitions noteSchema.definitions).toOption = some noteSchema := by
    decide +kernel
  exact .of_toOption hmade

/-- The number that is written `9.222222222222221`. -/
def noted : Json := .array [.number (.real ⟨false, 0x402271C71C71C71C, by decide⟩)]

/-- Its neighbour `9.22222222222222`. -/
def misread : Json := .array [.number (.real ⟨false, 0x402271C71C71C71B, by decide⟩)]

/-- A comma alone is accepted for a tag, and what is stored cannot be read. A number that a text
gives with a zero at its end is accepted for a note, and what is stored without the zero is read as
another number. -/
theorem accepted_values_not_kept :
    (tagSchema.Built ∧
      let v := (tagSchema.check false .new (oneTag ",")).finish ∅
      v.result.ok = true ∧ v.values = [⟨1, "tags", .list [","], ","⟩] ∧
        (tagSchema.resolve "tags").map (·.kind) = some .list ∧
        decode .list "," = .error (.unparseable .list "," (.emptyElement 0))) ∧
    (noteSchema.Built ∧ Json.ofText? "[9.2222222222222210]" = some noted ∧
      let v := (noteSchema.check false .new (.ofList [("note", noted)])).finish ∅
      v.result.ok = true ∧ v.values = [⟨1, "note", .document noted, "[9.222222222222221]"⟩] ∧
        (noteSchema.resolve "note").map (·.kind) = some .document ∧
        decode .document "[9.222222222222221]" = .ok (.document misread) ∧
        encodeAs .document (.document misread) = .ok "[9.22222222222222]") := by
  have hnoted : noted.render = "[9.222222222222221]" := by decide +kernel
  have hmisread : misread.render = "[9.22222222222222]" := by decide +kernel
  have hgiven : Json.ofText? "[9.2222222222222210]" = some noted :=
    Json.ofText?_of_render (by decide +kernel)
  have hread : Json.ofText? "[9.222222222222221]" = some misread :=
    Json.ofText?_of_render (by decide +kernel)
  have hvalues : ((noteSchema.check false .new (.ofList [("note", noted)])).finish ∅).values =
      [⟨1, "note", .document noted, noted.render⟩] := rfl
  have hencode : encodeAs .document (.document misread) = .ok misread.render := rfl
  rw [hnoted] at hvalues
  rw [hmisread] at hencode
  exact ⟨⟨built_tagSchema, by decide +kernel, rfl, by decide +kernel, rfl⟩,
    built_noteSchema, hgiven, by decide +kernel, hvalues, by decide +kernel,
    decode_of_ofText? hread, hencode⟩

end Schema

end Provisioning
