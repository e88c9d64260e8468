import Provisioning.Failure

/-!
Work that asks a directory questions.

A session is done, has failed, or asks a question and goes on with the answer. So what it does
depends on the answers alone, and a question that is not answered ends it: `Session.run` gives the
questions in the order in which they were asked, and the result.
-/

namespace Provisioning

/-- Work that asks questions and has a result. -/
inductive Session (α : Type) : Type where
  | done (a : α)
  | fail (e : Failure)
  | ask (q : Query) (next : q.Answer → Session α)

namespace Session

variable {α β : Type}

def bind : Session α → (α → Session β) → Session β
  | done a, f => f a
  | fail e, _ => fail e
  | ask q next, f => ask q fun a => (next a).bind f

instance : Monad Session where
  pure := done
  bind := bind

def query (q : Query) : Session q.Answer := ask q done

/-- Goes on with a result, or fails with an error. -/
def ofExcept : Except Failure α → Session α
  | .ok a => done a
  | .error e => fail e

/-- Runs a session against answers: the questions asked, and the result. -/
def run (tenant : String) (answer : (q : Query) → Except Unavailable q.Answer) :
    Session α → List Query × Except Failure α
  | done a => ([], .ok a)
  | fail e => ([], .error e)
  | ask q next =>
    match answer q with
    | .ok a =>
      let (asked, result) := (next a).run tenant answer
      (q :: asked, result)
    | .error u => ([q], .error (.unanswered q.call (q.keys tenant) u))

end Session

end Provisioning
