import Provisioning.Operations
import Provisioning.Proofs.Session
import Provisioning.Proofs.Wire.Stable

/-!
Changes that are built and changes that are sent.

On the wire the target of a change is one text, and some texts do not stand for the roles that they
name: the marker stands for all roles, and so does a blank text (`ChangeTarget.IsReserved`). A change
that is built in code may name any role. What is read from its form is the same change exactly if it
names no such role, and else one about all roles (`Change.sent_eq_self_iff`). So a batch without such
names gets the same verdict in both forms (`Change.sentAsBuilt`).
-/

namespace Provisioning

open Json (ofList)

/-- Blanks around it apart, the name of a role is empty or the marker for all roles. -/
def ChangeTarget.IsReserved (role : String) : Prop := Text.trim role = "" ∨ Text.trim role = marker

instance (role : String) : Decidable (ChangeTarget.IsReserved role) :=
  inferInstanceAs (Decidable (_ ∨ _))

namespace Change

open ChangeTarget (IsReserved)

variable {c : Change} {changes : List Change}

/-- A change names no role that is named like all roles. -/
def Plain (c : Change) : Prop := ∀ role ∈ c.target.roleName, ¬IsReserved role

lemma sent_eq_self (h : c.Plain) : c.sent = c := by
  obtain ⟨account, target, op⟩ := c
  cases target with
  | allRoles => exact congrArg (Change.mk account · op) ChangeTarget.ofText_marker
  | role name => exact congrArg (Change.mk account · op) (if_neg (h name rfl))

/-- A change with a reserved name is sent as one about all roles. -/
lemma sent_of_reserved {account role : String} {op : ChangeOp} (h : IsReserved role) :
    sent ⟨account, .role role, op⟩ = ⟨account, .allRoles, op⟩ :=
  congrArg (Change.mk account · op) (if_pos h)

/-- **A change arrives as it was built** exactly if its role is not named like all roles. -/
lemma sent_eq_self_iff : c.sent = c ↔ c.Plain := by
  refine ⟨fun h role hrole hreserved => ?_, sent_eq_self⟩
  obtain ⟨account, target, op⟩ := c
  cases target with
  | allRoles => cases hrole
  | role name =>
    obtain rfl := Option.some.inj hrole
    cases (sent_of_reserved hreserved).symm.trans h

lemma ofJson?_toJson (c : Change) : reader.ofJson? c.toJson = some c.sent := c.takes.ofJson?

lemma ofJson?_toJson_iff : reader.ofJson? c.toJson = some c ↔ c.Plain := by
  rw [ofJson?_toJson, Option.some_inj, sent_eq_self_iff]

/-- The changes of a batch arrive one by one. -/
lemma ofJson?_ofList (changes : List Change) :
    (Reader.list reader).ofJson? (ofList toJson changes) = some (changes.map sent) :=
  (Reader.takes_ofList_map fun c _ => c.takes).ofJson?

lemma map_sent_iff : changes.map sent = changes ↔ ∀ c ∈ changes, c.Plain := by
  have hid : changes.map id = changes := List.map_id changes
  have hiff := List.map_inj_left (f := sent) (g := id) (l := changes)
  rw [hid] at hiff
  exact hiff.trans (forall₂_congr fun c _ => sent_eq_self_iff)

lemma plain_role_iff {account role : String} {op : ChangeOp} :
    Plain ⟨account, .role role, op⟩ ↔ ¬IsReserved role :=
  ⟨fun h => h role rfl, fun h _ hname => Option.some.inj hname ▸ h⟩

/-- What becomes of changes that are built and sent. -/
structure SentAsBuilt : Prop where
  /-- Each is the change that is read from its form, unless its role is named like all roles. -/
  add : ∀ account role,
    reader.ofJson? (add account role).toJson = some (add account role) ↔ ¬IsReserved role
  removeOne : ∀ account role,
    reader.ofJson? (removeOne account role).toJson = some (removeOne account role) ↔
      ¬IsReserved role
  requested : ∀ g : RequestedGrant,
    reader.ofJson? g.toChange.toJson = some g.toChange ↔ ¬IsReserved g.role
  removeAll : ∀ account,
    reader.ofJson? (removeAll account).toJson = some (removeAll account)
  /-- Otherwise the same is asked for all roles. -/
  reserved : ∀ account role op, IsReserved role →
    reader.ofJson? (toJson ⟨account, .role role, op⟩) = some ⟨account, .allRoles, op⟩
  /-- A batch is read from its form exactly if no role in it is named like all roles. -/
  batch : ∀ changes : List Change,
    (Reader.list reader).ofJson? (ofList toJson changes) = some changes ↔ ∀ c ∈ changes, c.Plain
  /-- Then what is read gets the verdict on what was built. -/
  verdict : ∀ changes : List Change, (∀ c ∈ changes, c.Plain) →
    ∃ arrived, (Reader.list reader).ofJson? (ofList toJson changes) = some arrived ∧
      ∀ (d : Directory) (name : String) (p : Policy) user acting current,
        (d.run name (p.reconcile user acting current arrived)).2 =
          (d.run name (p.reconcile user acting current changes)).2

/-- **A change means the same built in code and sent**, unless it names a role that is named like
all roles; so does a batch of such changes. -/
theorem sentAsBuilt : SentAsBuilt where
  add account role := ofJson?_toJson_iff.trans plain_role_iff
  removeOne account role := ofJson?_toJson_iff.trans plain_role_iff
  requested g := ofJson?_toJson_iff.trans plain_role_iff
  removeAll account := ofJson?_toJson_iff.mpr nofun
  reserved account role op h := (ofJson?_toJson _).trans (congrArg some (sent_of_reserved h))
  batch changes := by
    rw [ofJson?_ofList, Option.some_inj, map_sent_iff]
  verdict changes h := by
    have hread := ofJson?_ofList changes
    rw [map_sent_iff.mpr h] at hread
    exact ⟨changes, hread, fun _ _ _ _ _ _ => rfl⟩

theorem sentAsBuilt_sample :
    reader.ofJson? (add "main" "reader").toJson = some (add "main" "reader") ∧
      reader.ofJson? (removeOne "main" " * ").toJson = some ⟨"main", .allRoles, .removeOne⟩ :=
  ⟨(sentAsBuilt.add "main" "reader").mpr (by decide +kernel),
    sentAsBuilt.reserved "main" " * " .removeOne (by decide +kernel)⟩

/-- The marker is no role of this tenant, so a change that names it is said to be about an unknown
role if it is built. What arrives if it is sent names no role, which is another fault. -/
theorem marker_arrives_as_allRoles :
    reader.ofJson? (Change.add "main" "*").toJson = some ⟨"main", .allRoles, .add⟩ ∧
      (⟨"main", .allRoles, .add⟩ : Change) ≠ Change.add "main" "*" ∧
      (Directory.sample.run "acme" (Policy.standard.reconcile 6 5 [] [.add "main" "*"])).2 =
        .ok (.rejected (.unknownReferences [⟨"main", "*", .add, .unknownRole⟩])
          [⟨"main", "*", .add, .unknownRole⟩]) ∧
      (Directory.sample.run "acme"
          (Policy.standard.reconcile 6 5 [] [⟨"main", .allRoles, .add⟩])).2 =
        .ok (.rejected (.invalidOperations [⟨"main", "*", .add, .roleRequired⟩])
          [⟨"main", "*", .add, .roleRequired⟩]) :=
  ⟨rfl, by decide, rfl, rfl⟩

end Change

end Provisioning
