import Provisioning.Directory.Basic
import Provisioning.Operations

/-!
The host: requests one after the other, each of them stored when it was accepted.

A host answers a request by running the operation and keeps what follows from an accepted outcome:
first it stores the rows, then it removes the cleared values, then it replaces the grants.
-/

namespace Provisioning

namespace Tenant

/-- Stores what follows from an outcome; of one that is not ok nothing does. -/
def store (t : Tenant) (o : Outcome) : Tenant :=
  let t := t.storeValues o.rows (o.cleared.map fun attributeId => (o.user, attributeId))
  match o.newGrants? with
  | some grants => t.replaceGrants o.user grants
  | none => t

/-- Stores the grants that follow from a verdict on a user. -/
def storeGrants (t : Tenant) (user : Uuid) (r : Reconciliation) : Tenant :=
  match r.grants? with
  | some grants => t.replaceGrants user grants
  | none => t

end Tenant

/-- A request to the host. -/
inductive HostRequest where
  | create (r : CreateRequest)
  | patch (r : PatchRequest)
  | associate (user acting : Uuid) (changes : List Change)

namespace Directory

/-- Keeps a result of a run, if there is one. -/
def keep {α : Type} (name : String) (store : Tenant → α → Tenant) :
    Directory × Except Failure α → Directory × Except Failure α
  | (d, .ok a) => (d.update name fun t => store t a, .ok a)
  | (d, .error e) => (d, .error e)

/-- Creates a user and stores what follows. -/
def create (d : Directory) (name : String) (p : Policy) (r : CreateRequest) :
    Directory × Except Failure Outcome :=
  keep name Tenant.store (d.run name (p.createUser r))

/-- Changes a user and stores what follows. -/
def patch (d : Directory) (name : String) (p : Policy) (r : PatchRequest) :
    Directory × Except Failure Outcome :=
  keep name Tenant.store (d.run name (p.patchUser r))

/-- Changes the grants of a user and stores what follows. -/
def associate (d : Directory) (name : String) (p : Policy) (user acting : Uuid)
    (changes : List Change) : Directory × Except Failure Reconciliation :=
  keep name (fun t r => t.storeGrants user r) (d.run name (p.associate user acting changes))

def serve (d : Directory) (name : String) (p : Policy) : HostRequest → Directory
  | .create r => (d.create name p r).1
  | .patch r => (d.patch name p r).1
  | .associate user acting changes => (d.associate name p user acting changes).1

end Directory

end Provisioning
