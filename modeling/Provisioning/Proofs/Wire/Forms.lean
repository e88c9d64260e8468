import Provisioning.Proofs.Wire.Records

/-!
What is written of a value is read as the value.

For each type that goes over the wire there is a lemma `takes`: the reader of the type takes what
is written of a value for that value. Attributes need values of which the members are in order. A
change is read as another one if its role has a name that stands for all roles (`Change.sent`).
-/

namespace Provisioning

open Reader

/-! ### Names -/

lemma AttributeKind.takes (kind : AttributeKind) : reader.Takes kind.toJson kind :=
  takes_parsed (by cases kind <;> decide +kernel)

lemma ChangeOp.takes (op : ChangeOp) : reader.Takes op.toJson op :=
  takes_named (by cases op <;> decide +kernel)

lemma ChangeFault.takes (fault : ChangeFault) :
    (named ofName?).Takes (.string fault.name) fault :=
  takes_named (by cases fault <;> decide +kernel)

lemma RejectionKind.takes (kind : RejectionKind) :
    (named ofName?).Takes (.string kind.name) kind :=
  takes_named (by cases kind <;> decide +kernel)

/-! ### Attributes -/

lemma AttributeDefinition.takes (d : AttributeDefinition) : reader.Takes d.toJson d := by
  refine Record.takes _ rfl fun r h => ?_
  rw [bind_of_eq_some (h.field? "id" rfl (takes_uuid d.id)),
    bind_of_eq_some (h.field? "name" rfl (takes_string d.name)),
    bind_of_eq_some (h.field? "type" rfl d.kind.takes),
    bind_of_eq_some (h.fieldOr? "mandatory" rfl (takes_bool d.mandatory)),
    bind_of_eq_some (h.fieldOr? "unique" rfl (takes_bool d.unique)),
    bind_of_eq_some (h.fieldOr? "readOnly" rfl (takes_bool d.readOnly)),
    bind_of_eq_some (h.optional? "validationPattern" rfl
      (takes_ofOption takes_string (fun _ => rfl) d.pattern)),
    bind_of_eq_some (h.fieldOr? "dynamic" rfl (takes_bool d.dynamic))]
  rfl

lemma ValueRow.takes (row : ValueRow) : reader.Takes row.toJson row := by
  refine Record.takes _ rfl fun r h => ?_
  rw [bind_of_eq_some (h.field? "userId" rfl (takes_uuid row.user)),
    bind_of_eq_some (h.field? "attributeId" rfl (takes_uuid row.attributeId)),
    bind_of_eq_some (h.field? "value" rfl (takes_string row.value))]
  rfl

lemma Probe.takes (p : Probe) : reader.Takes p.toJson p := by
  refine Record.takes _ rfl fun r h => ?_
  rw [bind_of_eq_some (h.field? "attributeId" rfl (takes_uuid p.attributeId)),
    bind_of_eq_some (h.field? "name" rfl (takes_string p.name)),
    bind_of_eq_some (h.field? "encoded" rfl (takes_string p.encoded))]
  rfl

lemma ValidationResult.takes (v : ValidationResult) : reader.Takes v.toJson v := by
  refine Record.takes _ (by obtain ⟨_, _, _, _, _, _ | _⟩ := v <;> rfl) fun r h => ?_
  have hreadOnly : r.fieldOr? "readOnly" (list string) [] = some v.readOnly :=
    h.fieldOr?_list "readOnly" (by obtain ⟨_, _, _, _, _, _ | _⟩ := v <;> rfl)
      fun s _ => takes_string s
  rw [bind_of_eq_some (h.field? "ok" rfl (takes_bool v.ok)),
    bind_of_eq_some (h.field? "unknown" rfl (takes_ofStrings v.unknown)),
    bind_of_eq_some (h.field? "missingMandatory" rfl (takes_ofStrings v.missingMandatory)),
    bind_of_eq_some (h.field? "invalid" rfl (takes_ofStrings v.invalid)),
    bind_of_eq_some (h.field? "duplicate" rfl (takes_ofStrings v.duplicate)),
    bind_of_eq_some hreadOnly]
  rfl

/-! ### Grants -/

lemma Role.takes (role : Role) : reader.Takes role.toJson role := by
  have hscopes : SortedSet.ofList role.scopes.toList = role.scopes :=
    SortedSet.ext_mem fun _ => SortedSet.mem_ofList
  refine Record.takes _ rfl fun r h => ?_
  rw [bind_of_eq_some (h.field? "id" rfl (takes_uuid role.id)),
    bind_of_eq_some (h.field? "name" rfl (takes_string role.name)),
    bind_of_eq_some (h.field? "scopes" rfl (takes_ofStrings role.scopes.toList)), hscopes]
  rfl

lemma Account.takes (a : Account) : reader.Takes a.toJson a := by
  refine Record.takes _ rfl fun r h => ?_
  rw [bind_of_eq_some (h.field? "id" rfl (takes_uuid a.id)),
    bind_of_eq_some (h.field? "name" rfl (takes_string a.name))]
  rfl

lemma Entitlement.takes (e : Entitlement) : reader.Takes e.toJson e := by
  refine Record.takes _ rfl fun r h => ?_
  rw [bind_of_eq_some (h.field? "accountId" rfl (takes_uuid e.account)),
    bind_of_eq_some (h.field? "roleId" rfl (takes_uuid e.role))]
  rfl

lemma Grant.takes (g : Grant) : reader.Takes g.toJson g := by
  refine Record.takes _ rfl fun r h => ?_
  rw [bind_of_eq_some (h.field? "userId" rfl (takes_uuid g.user)),
    bind_of_eq_some (h.field? "accountId" rfl (takes_uuid g.account)),
    bind_of_eq_some (h.field? "roleId" rfl (takes_uuid g.role))]
  rfl

/-- A change as it arrives: its target is what the text of its own target stands for. -/
def Change.sent (c : Change) : Change := { c with target := .ofText c.target.toText }

lemma Change.takes (c : Change) : reader.Takes c.toJson c.sent := by
  refine Record.takes _ rfl fun r h => ?_
  rw [bind_of_eq_some (h.field? "accountRef" rfl (takes_string c.account)),
    bind_of_eq_some (h.field? "target" rfl (takes_string c.target.toText)),
    bind_of_eq_some (h.field? "op" rfl c.op.takes)]
  rfl

lemma RequestedGrant.takes (g : RequestedGrant) : reader.Takes g.toJson g := by
  refine Record.takes _ rfl fun r h => ?_
  rw [bind_of_eq_some (h.field? "accountRef" rfl (takes_string g.account)),
    bind_of_eq_some (h.field? "role" rfl (takes_string g.role))]
  rfl

lemma ChangeError.takes (e : ChangeError) : reader.Takes e.toJson e := by
  refine Record.takes _ rfl fun r h => ?_
  rw [bind_of_eq_some (h.field? "accountRef" rfl (takes_string e.account)),
    bind_of_eq_some (h.field? "target" rfl (takes_string e.target)),
    bind_of_eq_some (h.field? "op" rfl e.op.takes),
    bind_of_eq_some (h.field? "reason" rfl e.fault.takes)]
  rfl

lemma GrantsResult.takes (g : GrantsResult) : reader.Takes g.toJson g := by
  refine Record.takes _ (by obtain ⟨_, _, _, _ | _⟩ := g <;> rfl) fun r h => ?_
  have hrejection : r.optional? "rejection" (named RejectionKind.ofName?) = some g.rejection :=
    h.optional?_map "rejection" (by obtain ⟨_, _, _, _ | _⟩ := g <;> rfl) (fun k _ => k.takes)
      fun _ => rfl
  rw [bind_of_eq_some (h.field? "ok" rfl (takes_bool g.ok)),
    bind_of_eq_some (h.field? "newAssociations" rfl
      (takes_ofList fun (e : Entitlement) _ => e.takes)),
    bind_of_eq_some (h.field? "errors" rfl (takes_ofList fun (e : ChangeError) _ => e.takes)),
    bind_of_eq_some hrejection]
  rfl

/-! ### Configurations, requests and outcomes -/

lemma Policy.takes (p : Policy) : reader.Takes p.toJson p := by
  refine Record.takes _ rfl fun r h => ?_
  rw [bind_of_eq_some (h.fieldOr? "systemScope" rfl (takes_string p.systemScope)),
    bind_of_eq_some (h.fieldOr? "allowSelfModification" rfl (takes_bool p.selfModification)),
    bind_of_eq_some (h.fieldOr? "enforceReadOnly" rfl (takes_bool p.enforceReadOnly)),
    bind_of_eq_some (h.optional? "defaultAccount" rfl
      (takes_ofOption takes_string (fun _ => rfl) p.defaultAccount)),
    bind_of_eq_some (h.optional? "defaultRole" rfl
      (takes_ofOption takes_string (fun _ => rfl) p.defaultRole))]
  rfl

/-- Whatever identifier would be made up, the one that is written is read. -/
lemma CreateRequest.takes (fresh : Uuid) (c : CreateRequest)
    (h : ∀ e ∈ c.attributes.toList, e.2.Ordered) : (reader fresh).Takes c.toJson c := by
  have hattributes := takes_attributesToJson h
  refine Record.takes _ rfl fun r h => ?_
  rw [bind_of_eq_some (h.fieldOr? "userId" rfl (takes_uuid c.user)),
    bind_of_eq_some (h.fieldOr? "attributes" rfl hattributes),
    bind_of_eq_some (h.fieldOr? "associations" rfl
      (takes_ofList fun (g : RequestedGrant) _ => g.takes)),
    bind_of_eq_some (h.optional? "actingUser" rfl
      (takes_ofOption takes_uuid (fun _ => rfl) c.acting))]
  rfl

lemma PatchRequest.takes (p : PatchRequest)
    (hattributes : ∀ m ∈ p.attributes, ∀ e ∈ m.toList, e.2.Ordered)
    (hchanges : ∀ c ∈ p.changes, Change.reader.Takes c.toJson c) : reader.Takes p.toJson p := by
  refine Record.takes _ (by obtain ⟨_, _, _ | _, _⟩ := p <;> rfl) fun r h => ?_
  have hread : r.optional? "attributes" object = some p.attributes :=
    h.optional?_map "attributes" (by obtain ⟨_, _, _ | _, _⟩ := p <;> rfl)
      (fun m hm => takes_attributesToJson (hattributes m hm)) fun _ => rfl
  have hwritten : r.fieldOr? "associationChanges" (list Change.reader) [] = some p.changes :=
    h.fieldOr? "associationChanges" (by obtain ⟨_, _, _ | _, _⟩ := p <;> rfl)
      (takes_ofList hchanges)
  rw [bind_of_eq_some (h.field? "userId" rfl (takes_uuid p.user)),
    bind_of_eq_some (h.field? "actingUser" rfl (takes_uuid p.acting)), bind_of_eq_some hread,
    bind_of_eq_some hwritten]
  rfl

lemma OutcomeResult.takes (o : OutcomeResult) : reader.Takes o.toJson o := by
  refine Record.takes _ (by obtain ⟨_, _, _ | _, _ | _⟩ := o <;> rfl) fun r h => ?_
  have hattributes : r.optional? "attributes" ValidationResult.reader = some o.attributes :=
    h.optional?_map "attributes" (by obtain ⟨_, _, _ | _, _ | _⟩ := o <;> rfl)
      (fun v _ => v.takes) fun _ => rfl
  have hgrants : r.optional? "associations" GrantsResult.reader = some o.grants :=
    h.optional?_map "associations" (by obtain ⟨_, _, _ | _, _ | _⟩ := o <;> rfl)
      (fun g _ => g.takes) fun _ => rfl
  rw [bind_of_eq_some (h.field? "ok" rfl (takes_bool o.ok)),
    bind_of_eq_some (h.field? "userId" rfl (takes_uuid o.user)),
    bind_of_eq_some hattributes, bind_of_eq_some hgrants]
  rfl

end Provisioning
