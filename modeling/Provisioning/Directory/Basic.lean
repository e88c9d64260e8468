import Provisioning.Directory.Session
import Provisioning.Directory.Tenant

/-!
The directory of all tenants.

Each tenant has its own data and is asked on its own. The directory keeps a list of the questions
it was asked, and can be told not to answer questions of some sorts; a question that is not answered
was asked all the same.
-/

namespace Provisioning

/-- What is kept for all tenants. -/
structure Directory where
  tenants : SortedMap String Tenant
  /-- The sorts of questions that are not answered. -/
  failing : List Call
  /-- The questions asked, in order. -/
  asked : List Call
  deriving DecidableEq

namespace Directory

def empty : Directory := ⟨∅, [], []⟩

instance : EmptyCollection Directory := ⟨empty⟩

/-- What is kept for a tenant. -/
def tenant (d : Directory) (name : String) : Tenant := (d.tenants.get? name).getD ∅

/-- Changes what is kept for a tenant. -/
def update (d : Directory) (name : String) (f : Tenant → Tenant) : Directory :=
  { d with tenants := d.tenants.insert name (f (d.tenant name)) }

def fail (d : Directory) (c : Call) : Directory :=
  { d with failing := if d.failing.contains c then d.failing else c :: d.failing }

def recover (d : Directory) (c : Call) : Directory :=
  { d with failing := d.failing.filter (· != c) }

def resetCalls (d : Directory) : Directory := { d with asked := [] }

def callCount (d : Directory) (c : Call) : Nat := d.asked.count c

/-- What a tenant answers to a question, unless questions of its sort are not answered. -/
def answer (d : Directory) (name : String) (q : Query) : Except Unavailable q.Answer :=
  if d.failing.contains q.call then .error ⟨q.call, name⟩ else .ok ((d.tenant name).answer q)

def ask (d : Directory) (name : String) (q : Query) : Directory × Except Unavailable q.Answer :=
  ({ d with asked := d.asked ++ [q.call] }, d.answer name q)

/-- Runs a session for a tenant. -/
def run {α : Type} (d : Directory) (name : String) (s : Session α) :
    Directory × Except Failure α :=
  let (queries, result) := s.run name (d.answer name)
  ({ d with asked := d.asked ++ queries.map Query.call }, result)

end Directory

end Provisioning
