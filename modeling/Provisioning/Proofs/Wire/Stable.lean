import Provisioning.Proofs.Wire.Forms

/-!
Forms that are stable.

What a client sends may be said in many ways: with other names of a kind, with the marker for all
roles spelled otherwise, with fields left out or null. It is read as a value, and what is written of
that value is read as the same value again (`Reader.Settles`). So reading and writing brings every
JSON value into a form of its own, in which a second pass changes nothing (`wireForms_settle`).
Readers do take what is written: every value of a type is read from it, but that the target of a
change is what its own text stands for (`WireFormsTaken`).

Two things are needed of values that were read (`Reader.Ensures`): the members of the values of
attributes are in order, and the target of a change is read from its own text.
-/

namespace Provisioning

open Json (Document)

/-! ### What was read -/

namespace Reader

variable {α : Type} {r : Reader α} {P : α → Prop}

/-- Only values with a certain property are read. -/
def Ensures (r : Reader α) (P : α → Prop) : Prop := ∀ room d a, r room d = some a → P a

lemma forall_of_mapM {β : Type} {f : β → Option α} {bs : List β} {as : List α}
    (h : bs.mapM f = some as) (hf : ∀ b a, f b = some a → P a) : ∀ a ∈ as, P a := by
  induction bs generalizing as with
  | nil =>
    obtain rfl := Option.some.inj h
    exact List.forall_mem_nil P
  | cons b rest ih =>
    rw [List.mapM_cons] at h
    obtain ⟨a, ha, h⟩ := Option.bind_eq_some_iff.mp h
    obtain ⟨more, hmore, h⟩ := Option.bind_eq_some_iff.mp h
    obtain rfl := Option.some.inj h
    exact List.forall_mem_cons.mpr ⟨hf b a ha, ih hmore⟩

lemma Ensures.list (h : r.Ensures P) : (list r).Ensures fun as => ∀ a ∈ as, P a := by
  intro room d as has
  unfold Reader.list at has
  split at has
  next room items => exact forall_of_mapM has (h room)
  next => cases has

lemma Ensures.optional (h : r.Ensures P) : (optional r).Ensures fun o => ∀ a ∈ o, P a := by
  intro room d o ho
  unfold Reader.optional at ho
  split at ho
  next =>
    obtain rfl := Option.some.inj ho
    nofun
  next =>
    obtain ⟨b, hb, rfl⟩ := Option.map_eq_some_iff.mp ho
    intro a ha
    exact Option.some.inj ha ▸ h room d b hb

/-- The members of attributes that were read are in order. -/
lemma ensures_object : object.Ensures fun m => ∀ e ∈ m.toList, e.2.Ordered := by
  intro room d m hm
  unfold object at hm
  split at hm
  next room members =>
    obtain ⟨ms, hms, rfl⟩ := Option.map_eq_some_iff.mp hm
    have hfits := Document.fits_of_memberValues? members room ms hms
    intro e he
    unfold SortedMap.ofList at he
    rw [SortedMap.toList_foldl_insert] at he
    exact (hfits e ((Document.mem_insertMembers he).resolve_right List.not_mem_nil)).1
  next => cases hm

end Reader

lemma Record.fieldOr?_ensures {α : Type} {read : Reader α} {P : α → Prop} {r : Record}
    {name : String} {a default : α} (h : r.fieldOr? name read default = some a)
    (hread : read.Ensures P) (hdefault : P default) : P a := by
  unfold Record.fieldOr? at h
  split at h
  next d _ => exact hread r.room d a h
  next => exact Option.some.inj h ▸ hdefault

lemma ChangeTarget.ofText_marker : ofText marker = allRoles := by decide +kernel

/-- Reading a target from its own text makes no difference to one that was read. -/
lemma ChangeTarget.ofText_toText_ofText (s : String) : ofText (ofText s).toText = ofText s := by
  by_cases hs : Text.trim s = "" ∨ Text.trim s = marker
  · have hall : ofText s = allRoles := if_pos hs
    rw [hall]
    exact ofText_marker
  · have hrole : ofText s = role s := if_neg hs
    rw [hrole]
    exact hrole

/-- A change that was read is read from what is written of it. -/
lemma Change.ensures : reader.Ensures fun c => reader.Takes c.toJson c := by
  intro room d c h
  obtain ⟨r, -, h⟩ := Option.bind_eq_some_iff.mp h
  obtain ⟨account, -, h⟩ := Option.bind_eq_some_iff.mp h
  obtain ⟨s, -, h⟩ := Option.bind_eq_some_iff.mp h
  obtain ⟨op, -, h⟩ := Option.bind_eq_some_iff.mp h
  obtain rfl := Option.some.inj h
  have htakes := takes ⟨account, .ofText s, op⟩
  unfold sent at htakes
  rw [ChangeTarget.ofText_toText_ofText] at htakes
  exact htakes

lemma CreateRequest.ensures (fresh : Uuid) :
    (reader fresh).Ensures fun c => ∀ e ∈ c.attributes.toList, e.2.Ordered := by
  intro room d c h
  obtain ⟨r, -, h⟩ := Option.bind_eq_some_iff.mp h
  obtain ⟨user, -, h⟩ := Option.bind_eq_some_iff.mp h
  obtain ⟨attributes, hattributes, h⟩ := Option.bind_eq_some_iff.mp h
  obtain ⟨grants, -, h⟩ := Option.bind_eq_some_iff.mp h
  obtain ⟨acting, -, h⟩ := Option.bind_eq_some_iff.mp h
  obtain rfl := Option.some.inj h
  exact Record.fieldOr?_ensures hattributes Reader.ensures_object (List.forall_mem_nil _)

lemma PatchRequest.ensures : reader.Ensures fun p => reader.Takes p.toJson p := by
  intro room d p h
  obtain ⟨r, -, h⟩ := Option.bind_eq_some_iff.mp h
  obtain ⟨user, -, h⟩ := Option.bind_eq_some_iff.mp h
  obtain ⟨acting, -, h⟩ := Option.bind_eq_some_iff.mp h
  obtain ⟨attributes, hattributes, h⟩ := Option.bind_eq_some_iff.mp h
  obtain ⟨changes, hchanges, h⟩ := Option.bind_eq_some_iff.mp h
  obtain rfl := Option.some.inj h
  exact takes _ (Record.fieldOr?_ensures hattributes Reader.ensures_object.optional nofun)
    (Record.fieldOr?_ensures hchanges Change.ensures.list (List.forall_mem_nil _))

/-! ### Stable forms -/

namespace Reader

variable {α : Type}

/-- One pass: what is written of the value that is read. -/
def rewrite? (r : Reader α) (write : α → Json) (j : Json) : Option Json := (r.ofJson? j).map write

/-- What is written of a value that was read, from a JSON value or a text, is read `again` as that
value; a second pass gives what the first one gave. -/
structure Settles (r again : Reader α) (write : α → Json) : Prop where
  value : ∀ j a, r.ofJson? j = some a → again.ofJson? (write a) = some a
  text : ∀ s a, r.ofText? s = some a → again.ofJson? (write a) = some a
  pass : ∀ j k, r.rewrite? write j = some k → again.rewrite? write k = some k

lemma Ensures.settles {r again : Reader α} {write : α → Json}
    (h : r.Ensures fun a => again.Takes (write a) a) : r.Settles again write where
  value j a ha := (h _ _ a ha).ofJson?
  text s a ha := by
    obtain ⟨d, -, hd⟩ := Option.bind_eq_some_iff.mp ha
    exact (h _ d a hd).ofJson?
  pass j k hk := by
    obtain ⟨a, ha, rfl⟩ := Option.map_eq_some_iff.mp hk
    unfold rewrite?
    rw [(h _ _ a ha).ofJson?]
    rfl

lemma settles_of_takes {r : Reader α} {write : α → Json} (h : ∀ a, r.Takes (write a) a) :
    r.Settles r write := Ensures.settles fun _ _ a _ => h a

end Reader

/-- What is written of a value is read as the value. -/
structure WireFormsTaken : Prop where
  attributeKind (kind : AttributeKind) : AttributeKind.reader.ofJson? kind.toJson = some kind
  attributeDefinition (d : AttributeDefinition) :
    AttributeDefinition.reader.ofJson? d.toJson = some d
  valueRow (row : ValueRow) : ValueRow.reader.ofJson? row.toJson = some row
  validationResult (v : ValidationResult) : ValidationResult.reader.ofJson? v.toJson = some v
  probe (p : Probe) : Probe.reader.ofJson? p.toJson = some p
  role (role : Role) : Role.reader.ofJson? role.toJson = some role
  account (a : Account) : Account.reader.ofJson? a.toJson = some a
  grant (g : Grant) : Grant.reader.ofJson? g.toJson = some g
  entitlement (e : Entitlement) : Entitlement.reader.ofJson? e.toJson = some e
  /-- A role may have a name that stands for all roles. -/
  change (c : Change) : Change.reader.ofJson? c.toJson = some c.sent
  requestedGrant (g : RequestedGrant) : RequestedGrant.reader.ofJson? g.toJson = some g
  changeError (e : ChangeError) : ChangeError.reader.ofJson? e.toJson = some e
  grantsResult (g : GrantsResult) : GrantsResult.reader.ofJson? g.toJson = some g
  createRequest (fresh : Uuid) (c : CreateRequest)
    (ordered : ∀ e ∈ c.attributes.toList, e.2.Ordered) :
    (CreateRequest.reader fresh).ofJson? c.toJson = some c
  patchRequest (p : PatchRequest) (ordered : ∀ m ∈ p.attributes, ∀ e ∈ m.toList, e.2.Ordered)
    (sent : ∀ c ∈ p.changes, c.sent = c) : PatchRequest.reader.ofJson? p.toJson = some p
  outcomeResult (o : OutcomeResult) : OutcomeResult.reader.ofJson? o.toJson = some o
  policy (p : Policy) : Policy.reader.ofJson? p.toJson = some p

lemma wireForms_taken : WireFormsTaken where
  attributeKind kind := kind.takes.ofJson?
  attributeDefinition d := d.takes.ofJson?
  valueRow row := row.takes.ofJson?
  validationResult v := v.takes.ofJson?
  probe p := p.takes.ofJson?
  role role := role.takes.ofJson?
  account a := a.takes.ofJson?
  grant g := g.takes.ofJson?
  entitlement e := e.takes.ofJson?
  change c := c.takes.ofJson?
  requestedGrant g := g.takes.ofJson?
  changeError e := e.takes.ofJson?
  grantsResult g := g.takes.ofJson?
  createRequest fresh c ordered := (c.takes fresh ordered).ofJson?
  patchRequest p ordered sent := by
    have hchanges : ∀ c ∈ p.changes, Change.reader.Takes c.toJson c := fun c hc => by
      have htakes := c.takes
      rwa [sent c hc] at htakes
    exact (p.takes ordered hchanges).ofJson?
  outcomeResult o := o.takes.ofJson?
  policy p := p.takes.ofJson?

/-- The forms of all types that go over the wire are stable, and what is written is taken. -/
structure WireFormsSettle : Prop where
  taken : WireFormsTaken
  attributeKind : AttributeKind.reader.Settles AttributeKind.reader AttributeKind.toJson
  attributeDefinition :
    AttributeDefinition.reader.Settles AttributeDefinition.reader AttributeDefinition.toJson
  valueRow : ValueRow.reader.Settles ValueRow.reader ValueRow.toJson
  validationResult : ValidationResult.reader.Settles ValidationResult.reader ValidationResult.toJson
  probe : Probe.reader.Settles Probe.reader Probe.toJson
  role : Role.reader.Settles Role.reader Role.toJson
  account : Account.reader.Settles Account.reader Account.toJson
  grant : Grant.reader.Settles Grant.reader Grant.toJson
  entitlement : Entitlement.reader.Settles Entitlement.reader Entitlement.toJson
  change : Change.reader.Settles Change.reader Change.toJson
  requestedGrant : RequestedGrant.reader.Settles RequestedGrant.reader RequestedGrant.toJson
  changeError : ChangeError.reader.Settles ChangeError.reader ChangeError.toJson
  grantsResult : GrantsResult.reader.Settles GrantsResult.reader GrantsResult.toJson
  /-- The identifier that is made up where none is given may be another one each time. -/
  createRequest : ∀ fresh fresh', (CreateRequest.reader fresh).Settles (CreateRequest.reader fresh')
    CreateRequest.toJson
  patchRequest : PatchRequest.reader.Settles PatchRequest.reader PatchRequest.toJson
  outcomeResult : OutcomeResult.reader.Settles OutcomeResult.reader OutcomeResult.toJson
  policy : Policy.reader.Settles Policy.reader Policy.toJson

/-- **Serialized forms are stable**: for every type, what is written of a value that was read is
read as the same value, so one pass normalises what a client sent and a second changes nothing.
Every other value is read from what is written of it too, a change with the target that is
written. -/
theorem wireForms_settle : WireFormsSettle where
  taken := wireForms_taken
  attributeKind := Reader.settles_of_takes AttributeKind.takes
  attributeDefinition := Reader.settles_of_takes AttributeDefinition.takes
  valueRow := Reader.settles_of_takes ValueRow.takes
  validationResult := Reader.settles_of_takes ValidationResult.takes
  probe := Reader.settles_of_takes Probe.takes
  role := Reader.settles_of_takes Role.takes
  account := Reader.settles_of_takes Account.takes
  grant := Reader.settles_of_takes Grant.takes
  entitlement := Reader.settles_of_takes Entitlement.takes
  change := Change.ensures.settles
  requestedGrant := Reader.settles_of_takes RequestedGrant.takes
  changeError := Reader.settles_of_takes ChangeError.takes
  grantsResult := Reader.settles_of_takes GrantsResult.takes
  createRequest fresh fresh' := Reader.Ensures.settles fun room d c hc =>
    c.takes fresh' (CreateRequest.ensures fresh room d c hc)
  patchRequest := PatchRequest.ensures.settles
  outcomeResult := Reader.settles_of_takes OutcomeResult.takes
  policy := Reader.settles_of_takes Policy.takes

/-- A blank target stands for all roles, and a kind has many names. -/
theorem wireForms_settle_sample :
    Change.reader.rewrite? Change.toJson (.object [("target", .string "  "),
        ("op", .object [("remove_all_for_account", .null)]), ("accountRef", .string "hq")]) =
      some (Change.removeAll "hq").toJson ∧
    Change.reader.rewrite? Change.toJson (Change.removeAll "hq").toJson =
      some (Change.removeAll "hq").toJson ∧
    AttributeKind.reader.rewrite? AttributeKind.toJson (.string " VarChar ") =
      some (.string "text") ∧
    AttributeKind.reader.rewrite? AttributeKind.toJson (.string "text") =
      some (.string "text") := by
  have hchange := wireForms_settle.change.pass (.object [("target", .string "  "),
    ("op", .object [("remove_all_for_account", .null)]), ("accountRef", .string "hq")]) _ rfl
  have hkind := wireForms_settle.attributeKind.pass (.string " VarChar ") _ rfl
  exact ⟨rfl, hchange, rfl, hkind⟩

end Provisioning
