import Provisioning.Proofs.Stored.Instant
import Provisioning.Proofs.Stored.Legible

/-!
Values that are equal and the texts that are stored for them.

Whether a value is taken is decided by stored texts. Equal values are stored as one text, but for
two sorts: timestamps that name one instant at different offsets, and documents that hold different
zeros in one place (`AttributeValue.encode_eq_iff`). A validation reports a value that another user
has, unless the two are such values (`AttributeValue.encode_eq_iff_reported`).
-/

namespace Provisioning

/-! ### Documents -/

namespace Json

mutual

/-- Equal values with the same floating-point numbers are one value. They hold equally many, so it
is the same for values that are followed by others. -/
lemma eq_of_same_append : (j k : Json) → (r s : List Binary64) → j.same k →
    j.reals ++ r = k.reals ++ s → j = k ∧ r = s
  | .null, k, r, s, h, hreals => by
    cases k with
    | null => exact ⟨rfl, hreals⟩
    | _ => cases h
  | .bool b, k, r, s, h, hreals => by
    cases k with
    | bool c => exact ⟨congrArg bool (beq_iff_eq.mp h), hreals⟩
    | _ => cases h
  | .number (.whole m hm), k, r, s, h, hreals => by
    cases k with
    | number n =>
      cases n with
      | whole n hn =>
        obtain rfl : m = n := beq_iff_eq.mp h
        exact ⟨rfl, hreals⟩
      | real y => cases h
    | _ => cases h
  | .number (.real x), k, r, s, h, hreals => by
    cases k with
    | number n =>
      cases n with
      | whole n hn => cases h
      | real y =>
        obtain ⟨rfl, hrest⟩ := List.cons.inj hreals
        exact ⟨rfl, hrest⟩
    | _ => cases h
  | .string t, k, r, s, h, hreals => by
    cases k with
    | string u => exact ⟨congrArg string (beq_iff_eq.mp h), hreals⟩
    | _ => cases h
  | .array items, k, r, s, h, hreals => by
    cases k with
    | array items' =>
      exact (eq_of_sameItems_append items items' r s h hreals).imp_left (congrArg array)
    | _ => cases h
  | .object members, k, r, s, h, hreals => by
    cases k with
    | object members' =>
      exact (eq_of_sameMembers_append members members' r s h hreals).imp_left (congrArg object)
    | _ => cases h

lemma eq_of_sameItems_append : (js ks : List Json) → (r s : List Binary64) → sameItems js ks →
    realsOfItems js ++ r = realsOfItems ks ++ s → js = ks ∧ r = s
  | [], [], _, _, _, hreals => ⟨rfl, hreals⟩
  | j :: js, k :: ks, r, s, h, hreals => by
    obtain ⟨hhead, htail⟩ := Bool.and_eq_true_iff.mp h
    rw [realsOfItems, realsOfItems, List.append_assoc, List.append_assoc] at hreals
    obtain ⟨rfl, hrest⟩ := eq_of_same_append j k _ _ hhead hreals
    exact (eq_of_sameItems_append js ks r s htail hrest).imp_left (congrArg (j :: ·))

lemma eq_of_sameMembers_append : (ms ns : List (String × Json)) → (r s : List Binary64) →
    sameMembers ms ns → realsOfMembers ms ++ r = realsOfMembers ns ++ s → ms = ns ∧ r = s
  | [], [], _, _, _, hreals => ⟨rfl, hreals⟩
  | (k, j) :: ms, (l, i) :: ns, r, s, h, hreals => by
    obtain ⟨hhead, htail⟩ := Bool.and_eq_true_iff.mp h
    obtain ⟨hkey, hvalue⟩ := Bool.and_eq_true_iff.mp hhead
    obtain rfl : k = l := beq_iff_eq.mp hkey
    rw [realsOfMembers, realsOfMembers, List.append_assoc, List.append_assoc] at hreals
    obtain ⟨rfl, hrest⟩ := eq_of_same_append j i _ _ hvalue hreals
    exact (eq_of_sameMembers_append ms ns r s htail hrest).imp_left (congrArg ((k, j) :: ·))

end

/-- Equal values with the same floating-point numbers are one value. -/
lemma eq_of_same {j k : Json} (h : j.same k) (hreals : j.reals = k.reals) : j = k :=
  (eq_of_same_append j k [] [] h (congrArg (· ++ []) hreals)).1

end Json

/-! ### Equal values -/

namespace AttributeValue

/-- A value of a kind is read, from a text or from JSON, however deep. -/
def IsRead (kind : AttributeKind) (v : AttributeValue) : Prop :=
  (∃ raw, decode kind raw = .ok v) ∨ ∃ j, fromWire kind j = .ok v

/-- Two values agree in what equality overlooks: the offset of a timestamp, and the signs of the
zeros among the floating-point numbers of a document. -/
def SpelledLike : AttributeValue → AttributeValue → Prop
  | timestamp a, timestamp b => a.offset = b.offset
  | document j, document k => j.reals = k.reals
  | _, _ => True

variable {kind : AttributeKind} {v w : AttributeValue}

lemma IsRead.kind_eq (h : v.IsRead kind) : v.kind = kind := by
  rcases h with ⟨raw, h⟩ | ⟨j, h⟩
  · exact (regular_of_decode h).1
  · exact (regular_or_document_of_fromWire h).1

/-- The year of a timestamp that was read has four digits. -/
lemma IsRead.inFourDigits {t : Timestamp} (h : (timestamp t).IsRead kind) : t.InFourDigits := by
  rcases h with ⟨raw, h⟩ | ⟨j, h⟩
  · exact (regular_of_decode h).2
  · obtain ⟨-, hregular | hdocument⟩ := regular_or_document_of_fromWire h
    · exact hregular
    · cases hdocument

/-- Equal values that are spelled alike are one value. -/
lemma eq_of_same (hkind : v.kind ≠ .decimal) (h : v.same w) (hspelled : v.SpelledLike w) :
    v = w := by
  unfold same at h
  split at h
  case h_4 => exact absurd rfl hkind
  case h_7 a b => exact congrArg timestamp (Timestamp.eq_of_same h hspelled)
  case h_9 j k => exact congrArg document (Json.eq_of_same h hspelled)
  case h_11 => cases h
  all_goals
    obtain rfl := beq_iff_eq.mp h
    rfl

/-- Values with one stored form are spelled alike. -/
lemma spelledLike_of_encode_eq (hv : v.IsRead kind) (hw : w.IsRead kind)
    (h : v.encode = w.encode) : v.SpelledLike w := by
  unfold SpelledLike
  split
  next a b =>
    have ha := Timestamp.ofText?_toText a hv.inFourDigits
    have hb := Timestamp.ofText?_toText b hw.inFourDigits
    have htext : a.toText = b.toText := h
    rw [htext, hb] at ha
    rw [Option.some.inj ha]
  next j k => rw [Json.render_inj h]
  next => trivial

/-- **Equal values are stored as one text** exactly if they are spelled alike. -/
lemma encode_eq_iff (hkind : kind ≠ .decimal) (hv : v.IsRead kind) (hw : w.IsRead kind)
    (hsame : v.same w) : v.encode = w.encode ↔ v.SpelledLike w :=
  ⟨spelledLike_of_encode_eq hv hw, fun hspelled =>
    congrArg encode (eq_of_same (hv.kind_eq ▸ hkind) hsame hspelled)⟩

end AttributeValue

/-! ### Values that are taken -/

/-- A validation for a tenant accepts a value of a unique attribute, and another user has a stored
one. -/
structure Contested (t : Tenant) (state : RecordState) (validation : Validation)
    (d : AttributeDefinition) (v : AttributeValue) (stored : String) : Prop where
  validated : ∃ (p : Policy) (proposed : SortedMap String Json),
    (p.validateAttributes proposed state).on t = .ok validation
  defined : d ∈ t.definitions.values
  unique : d.unique
  accepted : ⟨d.id, d.name, v, v.encode⟩ ∈ validation.values
  taken : ∃ user, some user ≠ state.ownUser ∧ t.valueOf user d.id = some stored

section Contested

variable {t : Tenant} {state : RecordState} {validation : Validation} {d : AttributeDefinition}
  {v : AttributeValue} {stored : String}

/-- What is looked for among stored values, and which attribute is accepted under the name. -/
lemma Contested.exists_check (h : Contested t state validation d v stored) :
    ∃ (c : AttributeCheck) (taken : SortedSet Uuid), validation = c.finish taken ∧
      (∀ id, id ∈ taken ↔
        ∃ probe ∈ c.probes, t.isTaken state.ownUser probe ∧ probe.attributeId = id) ∧
      ∀ e u, .accepted e u ∈ c.findings → e.name = d.name → e = d := by
  obtain ⟨p, proposed, hvalidated⟩ := h.validated
  obtain ⟨s, hs, rfl⟩ := on_validateAttributes_eq_ok hvalidated
  have hcoherent := Schema.coherent_ofDefinitions hs
  have hd := (Schema.mem_definitions_ofDefinitions hs).mpr h.defined
  refine ⟨_, _, rfl, fun id => ?_, fun e u hfound hname => ?_⟩
  · simp [SortedSet.mem_ofList, List.mem_map, and_assoc]
  · have he := (hcoherent.accepted_mem_findings.mp hfound).1
    exact hcoherent.eq_of_key_eq he hd (congrArg Text.lower hname)

/-- A value that another user has stored as the same text is reported. -/
lemma Contested.reported (h : Contested t state validation d v v.encode) :
    d.name ∈ validation.result.duplicate := by
  obtain ⟨c, taken, rfl, htaken, hdefinition⟩ := h.exists_check
  obtain ⟨e, u, hfound, heq⟩ := Finding.mem_acceptedValues.mp h.accepted
  obtain ⟨-, hname, rfl, -⟩ := AcceptedValue.mk.inj heq
  obtain rfl := hdefinition e v hfound hname.symm
  have hprobe := Finding.mem_probes hfound h.unique
  have hid : e.id ∈ taken := (htaken e.id).mpr ⟨_, hprobe, Tenant.isTaken_iff.mpr h.taken, rfl⟩
  exact SortedSet.mem_ofList.mpr
    (AttributeCheck.mem_duplicates h.accepted ⟨_, hprobe, rfl⟩ hid)

/-- Where a value is reported, another user has stored it as the same text. -/
lemma Contested.taken_of_reported (h : Contested t state validation d v stored)
    (hids : t.DistinctIds) (hreported : d.name ∈ validation.result.duplicate) :
    ∃ user, some user ≠ state.ownUser ∧ t.valueOf user d.id = some v.encode := by
  obtain ⟨p, proposed, hvalidated⟩ := h.validated
  have hdistinct := (sound_of_validateAttributes hids hvalidated).distinct
  obtain ⟨c, taken, rfl, htaken, hdefinition⟩ := h.exists_check
  have hname : d.name ∈ c.duplicates taken := SortedSet.mem_ofList.mp hreported
  obtain ⟨b, hb, hbname⟩ := List.mem_map.mp hname
  obtain ⟨haccepted, hids⟩ := List.mem_filter.mp hb
  obtain ⟨e, u, hfound, rfl⟩ := Finding.mem_acceptedValues.mp haccepted
  obtain rfl := hdefinition e u hfound hbname
  have hid : e.id ∈ taken := SortedSet.contains_iff.mp (Bool.and_eq_true_iff.mp hids).2
  obtain ⟨probe, hprobe, hprobeTaken, hprobeId⟩ := (htaken e.id).mp hid
  obtain ⟨e', u', hfound', -, rfl⟩ := Finding.mem_probes_iff.mp hprobe
  have haccepted' := Finding.mem_acceptedValues.mpr ⟨e', u', hfound', rfl⟩
  have hsame := List.inj_on_of_nodup_map (List.nodup_append.mp hdistinct).1 haccepted' h.accepted
    hprobeId
  obtain ⟨-, -, rfl, -⟩ := AcceptedValue.mk.inj hsame
  obtain ⟨user, huser, hvalue⟩ := Tenant.isTaken_iff.mp hprobeTaken
  exact ⟨user, huser, hprobeId ▸ hvalue⟩

end Contested

namespace AttributeValue

variable {kind : AttributeKind} {v w : AttributeValue}

/-- **Equal values have one stored form exactly if they are spelled alike.** If they are, and one of
them is stored for a user, the other is reported when it is proposed for another user of the tenant
and the attribute is unique. If they are not, it is only reported where somebody else has yet
another value stored. -/
theorem encode_eq_iff_reported (hkind : kind ≠ .decimal) (hv : v.IsRead kind) (hw : w.IsRead kind)
    (hsame : v.same w) :
    (v.encode = w.encode ↔ v.SpelledLike w) ∧
      ∀ t state validation d, Contested t state validation d v w.encode →
        (v.SpelledLike w → d.name ∈ validation.result.duplicate) ∧
        (t.DistinctIds →
          (∀ user, some user ≠ state.ownUser → ∀ raw, t.valueOf user d.id = some raw →
            raw = w.encode) →
          d.name ∈ validation.result.duplicate → v.SpelledLike w) := by
  have hiff := encode_eq_iff hkind hv hw hsame
  refine ⟨hiff, fun t state validation d h => ⟨fun hspelled => ?_, fun hids honly hreported => ?_⟩⟩
  · rw [← hiff.mpr hspelled] at h
    exact h.reported
  · obtain ⟨user, huser, hvalue⟩ := h.taken_of_reported hids hreported
    exact hiff.mp (honly user huser _ hvalue)

/-- A tenant with one unique attribute, of which one user has a value. -/
def oneBadge (kind : AttributeKind) (stored : String) : Tenant :=
  ⟨.ofList [("badge", ⟨1, "badge", kind, false, true, false, none, true⟩)],
    .ofList [(6, .ofList [(1, stored)])], ∅, ∅, ∅⟩

/-- A new user is to have a badge. -/
def validateBadge (badge : String) : Session Validation :=
  Policy.standard.validateAttributes (.ofList [("badge", .string badge)]) .new

theorem encode_eq_iff_reported_integer :
    decode .integer "+7" = .ok (.integer 7 (by decide)) ∧
    decode .integer "007" = .ok (.integer 7 (by decide)) ∧
    ∃ validation, (validateBadge "+7").on (oneBadge .integer "7") = .ok validation ∧
      "badge" ∈ validation.result.duplicate := by
  have hproposed : decode .integer "+7" = .ok (.integer 7 (by decide)) := rfl
  have hstored : decode .integer "007" = .ok (.integer 7 (by decide)) := rfl
  have hvalidated : (validateBadge "+7").on (oneBadge .integer "7") =
      .ok ⟨⟨false, [], [], [], ["badge"], []⟩, [⟨1, "badge", .integer 7 (by decide), "7"⟩], []⟩ :=
    rfl
  have htaken : (oneBadge .integer "7").valueOf 6 1 = some "7" := by decide +kernel
  have hkind : AttributeKind.integer ≠ .decimal := by decide
  obtain ⟨-, hreported⟩ := encode_eq_iff_reported hkind (Or.inl ⟨_, hproposed⟩)
    (Or.inl ⟨_, hstored⟩) rfl
  have hcontested : Contested (oneBadge .integer "7") .new _
      ⟨1, "badge", .integer, false, true, false, none, true⟩ (.integer 7 (by decide)) "7" :=
    ⟨⟨_, _, hvalidated⟩, by decide +kernel, rfl, List.mem_singleton_self _, 6, nofun, htaken⟩
  exact ⟨hproposed, hstored, _, hvalidated, (hreported _ _ _ _ hcontested).1 trivial⟩

/-- Ten o'clock in universal time. -/
def ten : Timestamp := ⟨⟨2024, 5, 1, by decide⟩, ⟨10, 0, 0, 0, by decide⟩, 0, by decide⟩

/-- The same instant on clocks that are two hours ahead. -/
def noon : Timestamp := ⟨⟨2024, 5, 1, by decide⟩, ⟨12, 0, 0, 0, by decide⟩, 120, by decide⟩

/-- A document that holds a zero. -/
def zeroDocument (negative : Bool) : Json :=
  .array [.number (.real { Binary64.zero with negative := negative })]

/-- Timestamps at different offsets are equal and stored as two texts, so one is not reported where
another user has the other. The same is so of the two zeros in documents. -/
theorem equal_values_two_forms :
    (decode .timestamp "2024-05-01T10:00:00Z" = .ok (.timestamp ten) ∧
      decode .timestamp "2024-05-01T12:00:00+02:00" = .ok (.timestamp noon) ∧
      (timestamp noon).same (.timestamp ten) ∧
      (timestamp ten).encode = "2024-05-01T10:00:00+00:00" ∧
      (timestamp noon).encode = "2024-05-01T12:00:00+02:00" ∧
      ((validateBadge "2024-05-01T12:00:00+02:00").on
          (oneBadge .timestamp "2024-05-01T10:00:00+00:00")).map (·.result) =
        .ok ⟨true, [], [], [], [], []⟩) ∧
    (fromWire .document (zeroDocument false) = .ok (.document (zeroDocument false)) ∧
      fromWire .document (zeroDocument true) = .ok (.document (zeroDocument true)) ∧
      (document (zeroDocument true)).same (.document (zeroDocument false)) ∧
      (document (zeroDocument false)).encode = "[0.0]" ∧
      (document (zeroDocument true)).encode = "[-0.0]") := by
  refine ⟨⟨rfl, rfl, by decide +kernel, by decide +kernel, by decide +kernel, rfl⟩, rfl, rfl,
    by decide +kernel, by decide +kernel, by decide +kernel⟩

end AttributeValue

end Provisioning
