import Provisioning.Role.Permission

/-!
What is configured.

A policy says which scope is unrestricted, whether holding exactly the roles in question is enough,
whether read-only attributes are protected, and what a new user is granted when nothing is
requested. `Policy.fault?` says what is wrong with one.
-/

namespace Provisioning

structure Policy where
  systemScope : String
  selfModification : Bool
  enforceReadOnly : Bool
  /-- The account of the grant that a new user gets by default. -/
  defaultAccount : Option String
  /-- The role of that grant. -/
  defaultRole : Option String
  deriving DecidableEq

namespace Policy

/-- The configuration where no other is given. -/
def standard : Policy := ⟨"system", true, false, none, none⟩

instance : Inhabited Policy := ⟨standard⟩

/-- What is wrong with a configuration. -/
def fault? (p : Policy) : Option PolicyFault :=
  if Text.isBlankText p.systemScope then some .emptySystemScope
  else match p.defaultAccount, p.defaultRole with
    | none, none => none
    | some account, some role =>
      if Text.isBlankText account then some .emptyDefaultAccount
      else if Text.isBlankText role ∨ Text.trim role = ChangeTarget.marker then
        some .invalidDefaultRole
      else none
    | _, _ => some .defaultsNotTogether

/-- A configuration with nothing wrong. -/
def validated (p : Policy) : Except Failure Policy :=
  match p.fault? with
  | none => .ok p
  | some fault => .error (.configuration fault)

/-- What a new user is granted when nothing is requested. -/
def defaultGrant (p : Policy) : Option RequestedGrant :=
  match p.defaultAccount, p.defaultRole with
  | some account, some role => some ⟨account, role⟩
  | _, _ => none

/-- The rule by which permissions are decided. -/
def rule (p : Policy) : PermissionRule := ⟨p.systemScope, p.selfModification⟩

end Policy

end Provisioning
