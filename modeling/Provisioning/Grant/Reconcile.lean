import Provisioning.Role.Permission

/-!
Batches of changes to the grants of a user.

A batch is applied as a whole or not at all. First every account and role that it names is resolved;
then every change is judged against the grants before the batch, removals of single entitlements
before removals of whole accounts, and additions last; then the batch must leave the user something
and the acting principal must be allowed to touch every role that is added or taken away.
-/

namespace Provisioning

inductive Rejection where
  /-- Accounts or roles do not exist. -/
  | unknownReferences (errors : List ChangeError)
  /-- Changes do not fit the grants before the batch. -/
  | invalidOperations (errors : List ChangeError)
  /-- The user would be left without any grant. -/
  | leavesNothing (user : Uuid)
  /-- The principal may not touch the roles. -/
  | notPermitted (acting : Uuid) (roles : List String)
  deriving DecidableEq

inductive RejectionKind where
  | unknownReferences
  | invalidOperations
  | leavesNothing
  | notPermitted
  deriving DecidableEq, Repr

namespace RejectionKind

def name : RejectionKind → String
  | unknownReferences => "invalid_association_reference"
  | invalidOperations => "invalid_association_operation"
  | leavesNothing => "cannot_fully_disassociate"
  | notPermitted => "permission_denied"

def ofName? (s : String) : Option RejectionKind :=
  [unknownReferences, invalidOperations, leavesNothing, notPermitted].find? (·.name == s)

end RejectionKind

namespace Rejection

def kind : Rejection → RejectionKind
  | unknownReferences _ => .unknownReferences
  | invalidOperations _ => .invalidOperations
  | leavesNothing _ => .leavesNothing
  | notPermitted _ _ => .notPermitted

def message : Rejection → String
  | unknownReferences errors =>
    "Batch references unknown accounts or roles (" ++ toString errors.length ++ " errors)"
  | invalidOperations errors =>
    "Batch contains invalid operations (" ++ toString errors.length ++ " errors)"
  | leavesNothing user =>
    "User " ++ user.toText ++ " cannot be left without any account/role association"
  | notPermitted acting roles =>
    "Principal " ++ acting.toText ++ " is not permitted to modify roles " ++ Text.quoteList roles

end Rejection

/-- What an applied batch did. -/
structure GrantChanges where
  /-- All grants after the batch. -/
  grants : List Grant
  added : List Grant
  removed : List Grant
  deriving DecidableEq

inductive Reconciliation where
  | applied (changes : GrantChanges)
  /-- With what is said of each change. -/
  | rejected (rejection : Rejection) (errors : List ChangeError)
  deriving DecidableEq

namespace Reconciliation

def isApplied : Reconciliation → Bool
  | applied _ => true
  | rejected _ _ => false

def rejection? : Reconciliation → Option Rejection
  | applied _ => none
  | rejected r _ => some r

def grants? : Reconciliation → Option (List Grant)
  | applied changes => some changes.grants
  | rejected _ _ => none

end Reconciliation

/-! ### Resolving references -/

/-- How a change names its account. -/
inductive AccountRef where
  | byId (id : Uuid)
  | byName (name : String)
  deriving DecidableEq

namespace AccountRef

/-- A text that reads as an identifier is one. -/
def ofText (s : String) : AccountRef :=
  match Uuid.ofText? s with
  | some id => .byId id
  | none => .byName s

def id? : AccountRef → Option Uuid
  | byId id => some id
  | byName _ => none

def name? : AccountRef → Option String
  | byId _ => none
  | byName name => some name

/-- The account, if it exists. -/
def resolve (l : Lookups) : AccountRef → Option Uuid
  | byId id => (l.accounts.get? id).map (·.id)
  | byName name => (l.accounts.getByName? name).map (·.id)

end AccountRef

/-- A change whose account and role exist. -/
structure ResolvedChange where
  change : Change
  account : Uuid
  /-- The role and its name, if the change is about one. -/
  role : Option (Uuid × String)
  deriving DecidableEq

/-- Learns of every account and role that a batch names, and of the roles held already. -/
def resolveReferences (changes : List Change) (heldRoleIds : List Uuid) : Resolving Unit := do
  let refs := changes.map fun c => AccountRef.ofText c.account
  let l ← get
  let accountIds := l.accounts.unseenIds (refs.filterMap AccountRef.id?)
  let accountNames := l.accounts.unseenNames (refs.filterMap AccountRef.name?)
  let roleNames := l.roles.unseenNames (changes.filterMap fun c => c.target.roleName)
  let roleIds := l.roles.unseenIds heldRoleIds
  let accountsById ← Resolving.fetchAccountsById accountIds
  let accountsByName ← Resolving.fetchAccountsByName accountNames
  let rolesByName ← Resolving.fetchRolesByName roleNames
  let rolesById ← Resolving.fetchRolesById roleIds
  set { l with
    accounts := (l.accounts.recordById accountIds accountsById).recordByName accountNames
      accountsByName
    roles := (l.roles.recordByName roleNames rolesByName).recordById roleIds rolesById }

/-- The role that a change names, if it exists; `none` if the change names no role. -/
def resolveTarget (l : Lookups) : ChangeTarget → Option (Option (Uuid × String))
  | .role name => (l.roles.getByName? name).map fun r => some (r.id, r.name)
  | .allRoles => some none

/-- Resolves the account and the role of a change, or says which of them do not exist. -/
def resolveChange (l : Lookups) (c : Change) : Except (List ChangeError) ResolvedChange :=
  match (AccountRef.ofText c.account).resolve l, resolveTarget l c.target with
  | some account, some role => .ok ⟨c, account, role⟩
  | some _, none => .error [c.refuse .unknownRole]
  | none, some _ => .error [c.refuse .unknownAccount]
  | none, none => .error [c.refuse .unknownAccount, c.refuse .unknownRole]

/-- What is wrong with the references of a batch, in the order of its changes. -/
def referenceErrors (l : Lookups) (changes : List Change) : List ChangeError :=
  changes.flatMap fun c =>
    match resolveChange l c with
    | .ok _ => []
    | .error errors => errors

/-- The changes of a batch whose references exist. -/
def resolvedChanges (l : Lookups) (changes : List Change) : List ResolvedChange :=
  changes.filterMap fun c => (resolveChange l c).toOption

/-- Changes in the order in which they are judged: by priority, and otherwise as they were
submitted. -/
def byPriority (changes : List ResolvedChange) : List ResolvedChange :=
  ChangeOp.inOrder (·.change.op) changes

/-! ### Judging changes -/

/-- What a change amounts to. -/
inductive Effect where
  | refuse (error : ChangeError)
  /-- Takes entitlements away, each with the name of its role. -/
  | remove (taken : List (Entitlement × String))
  | add (given : Entitlement) (roleName : String)
  deriving DecidableEq

namespace Effect

/-- The refusal, if the change was refused. -/
def error? : Effect → Option ChangeError
  | refuse e => some e
  | _ => none

/-- The entitlements that are taken away. -/
def taken : Effect → List Entitlement
  | remove es => es.map Prod.fst
  | _ => []

/-- The entitlement that is given. -/
def given? : Effect → Option Entitlement
  | add e _ => some e
  | _ => none

/-- The names of the roles that are added or taken away. -/
def roleNames : Effect → List String
  | remove es => es.map Prod.snd
  | add _ name => [name]
  | refuse _ => []

end Effect

/-- The roles held on an account, in order and without repetition. -/
def rolesOn (held : List Entitlement) (account : Uuid) : List Uuid :=
  (SortedSet.ofList ((held.filter (·.account == account)).map (·.role))).toList

/-- The entitlements held on an account with the names of their roles; a role that does not exist is
an error. -/
def namedRoles (l : Lookups) (user account : Uuid) :
    List Uuid → Except Failure (List (Entitlement × String))
  | [] => .ok []
  | id :: ids =>
    match l.roles.get? id with
    | some r => (namedRoles l user account ids).map fun rest => (⟨account, id⟩, r.name) :: rest
    | none => .error (.unresolvedRoles user [id.toText])

/-- Judges a change against the entitlements held before the batch. -/
def judgeChange (l : Lookups) (user : Uuid) (held : List Entitlement) (r : ResolvedChange) :
    Except Failure Effect :=
  match r.change.op, r.role with
  | .removeOne, some (role, name) =>
    .ok (if held.contains ⟨r.account, role⟩ then .remove [(⟨r.account, role⟩, name)]
      else .refuse (r.change.refuse .notHeld))
  | .removeAll, none =>
    match rolesOn held r.account with
    | [] => .ok (.refuse (r.change.refuse .nothingOnAccount))
    | ids => (namedRoles l user r.account ids).map .remove
  | .add, some (role, name) =>
    .ok (if held.contains ⟨r.account, role⟩ then .refuse (r.change.refuse .alreadyHeld)
      else .add ⟨r.account, role⟩ name)
  | .removeOne, none => .ok (.refuse (r.change.refuse .roleRequired))
  | .add, none => .ok (.refuse (r.change.refuse .roleRequired))
  | .removeAll, some _ => .ok (.refuse (r.change.refuse .allRolesRequired))

/-- Judges changes one after the other; the first error ends it. -/
def judgeChanges (l : Lookups) (user : Uuid) (held : List Entitlement) :
    List ResolvedChange → Except Failure (List Effect)
  | [] => .ok []
  | r :: rest =>
    match judgeChange l user held r with
    | .ok effect => (judgeChanges l user held rest).map (effect :: ·)
    | .error e => .error e

/-! ### Applying batches -/

/-- The elements of a list without those whose image occurred before. -/
def distinctBy {α β : Type} [BEq β] (f : α → β) (seen : List β) : List α → List α
  | [] => []
  | a :: rest =>
    if seen.contains (f a) then distinctBy f seen rest else a :: distinctBy f (f a :: seen) rest

/-- Grants without later ones of the same entitlement. -/
def distinctGrants (gs : List Grant) : List Grant := distinctBy Grant.entitlement [] gs

/-- What a batch of judged changes does to the grants of a user. -/
def applyEffects (user : Uuid) (current : List Grant) (effects : List Effect) : GrantChanges :=
  let taken := effects.flatMap Effect.taken
  let added := (distinctBy id [] (effects.filterMap Effect.given?)).map (·.grantTo user)
  let kept := current.filter fun g => !taken.contains g.entitlement
  ⟨kept ++ added, added, current.filter fun g => taken.contains g.entitlement⟩

namespace PermissionRule

/-- Accepts changes if the acting principal may touch the given roles, and otherwise refuses every
request of the batch. -/
def permit (rule : PermissionRule) (acting : Uuid) (roles : SortedSet String)
    (requests : List Change) (changes : GrantChanges) : Resolving Reconciliation := do
  let decision ← rule.isPermitted acting roles
  if decision.isPermitted then return .applied changes
  else
    let errors := requests.map fun c => c.refuse .permissionDenied
    return .rejected (.notPermitted acting roles.toList) errors

/-- Passes a verdict on resolved changes, in the order in which they are judged. -/
def judgeBatch (rule : PermissionRule) (l : Lookups) (user acting : Uuid) (current : List Grant)
    (resolved : List ResolvedChange) : Resolving Reconciliation :=
  match judgeChanges l user (current.map Grant.entitlement) resolved with
  | .error e => Resolving.fail e
  | .ok effects =>
    let errors := effects.filterMap Effect.error?
    let changes := applyEffects user current effects
    let roles := SortedSet.ofList (effects.flatMap Effect.roleNames)
    let removals := resolved.filter (·.change.op != .add)
    if !errors.isEmpty then pure (.rejected (.invalidOperations errors) errors)
    else if !current.isEmpty && changes.grants.isEmpty then
      pure (.rejected (.leavesNothing user) (removals.map (·.change.refuse .wouldRemoveAll)))
    else if roles.isEmpty then pure (.applied changes)
    else rule.permit acting roles (resolved.map (·.change)) changes

/-- Passes a verdict on a batch of changes to the grants of a user. -/
def reconcile (rule : PermissionRule) (user acting : Uuid) (current : List Grant)
    (changes : List Change) : Resolving Reconciliation := do
  let current := distinctGrants current
  if changes.isEmpty then return .applied ⟨current, [], []⟩
  else
    resolveReferences changes (current.map (·.role))
    let l ← get
    let errors := referenceErrors l changes
    if errors.isEmpty then
      rule.judgeBatch l user acting current (byPriority (resolvedChanges l changes))
    else return .rejected (.unknownReferences errors) errors

/-- The grant that a resolved change makes, if it is about one role. -/
def grantOf? (user : Uuid) (r : ResolvedChange) : Option Grant :=
  r.role.map fun role => ⟨user, r.account, role.1⟩

/-- Passes a verdict on the first grants of a new user. There is something to grant, everything
named exists, and the acting principal, if there is one, may touch the roles. -/
def initial (rule : PermissionRule) (user : Uuid) (acting : Option Uuid)
    (requested : List RequestedGrant) : Resolving Reconciliation := do
  let changes := requested.map RequestedGrant.toChange
  resolveReferences changes []
  let l ← get
  let errors := referenceErrors l changes
  let resolved := resolvedChanges l changes
  let grants := distinctGrants (resolved.filterMap (grantOf? user))
  let roles := SortedSet.ofList ((resolved.filterMap (·.role)).map Prod.snd)
  if !errors.isEmpty then return .rejected (.unknownReferences errors) errors
  else if grants.isEmpty then return .rejected (.leavesNothing user) []
  else match acting with
    | none => return .applied ⟨grants, grants, []⟩
    | some acting => rule.permit acting roles changes ⟨grants, grants, []⟩

end PermissionRule

end Provisioning
