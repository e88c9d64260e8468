import Mathlib.Tactic.Lemma
import Provisioning.Directory.Basic

/-!
The result of a session where every question is answered.

`Session.on` runs a session against the data of one tenant. A directory that answers every question
gives that result (`run_of_answering`). One that leaves some questions unanswered gives it or fails:
whatever a session returns, it also returns when every question is answered (`on_of_run`).
-/

namespace Provisioning

/-! ### Results -/

section Except

variable {ε ε' α β : Type} {x : Except ε α} {a : α} {b : β}

lemma bind_eq_ok {f : α → Except ε β} : x >>= f = .ok b ↔ ∃ a, x = .ok a ∧ f a = .ok b := by
  rcases x with e | a
  · exact iff_of_false (fun h => by cases h) fun ⟨_, h, _⟩ => by cases h
  · exact ⟨fun h => ⟨a, rfl, h⟩, fun ⟨_, rfl, h⟩ => h⟩

lemma map_eq_ok {f : α → β} : x.map f = .ok b ↔ ∃ a, x = .ok a ∧ f a = b := by
  rcases x with e | a
  · exact iff_of_false (fun h => by cases h) fun ⟨_, h, _⟩ => by cases h
  · exact ⟨fun h => ⟨a, rfl, Except.ok.inj h⟩, fun ⟨_, rfl, h⟩ => congrArg Except.ok h⟩

lemma mapError_eq_ok {f : ε → ε'} : x.mapError f = .ok a ↔ x = .ok a := by
  rcases x with e | b
  · exact iff_of_false (fun h => by cases h) fun h => by cases h
  · exact ⟨fun h => congrArg Except.ok (Except.ok.inj h), fun h => by rw [h]; rfl⟩

lemma map_toOption_eq_some {f : α → β} : x.toOption.map f = some b ↔ ∃ a, x = .ok a ∧ f a = b := by
  rcases x with e | a
  · exact iff_of_false (fun h => by cases h) fun ⟨_, h, _⟩ => by cases h
  · exact ⟨fun h => ⟨a, rfl, Option.some.inj h⟩, fun ⟨_, rfl, h⟩ => congrArg some h⟩

end Except

/-! ### Sessions -/

namespace Session

variable {α β : Type} (t : Tenant)

/-- The result of a session for a tenant when every question is answered. -/
def on : Session α → Except Failure α
  | done a => .ok a
  | fail e => .error e
  | ask q next => (next (t.answer q)).on

@[simp] lemma on_pure (a : α) : (pure a : Session α).on t = .ok a := rfl

@[simp] lemma on_fail (e : Failure) : (fail e : Session α).on t = .error e := rfl

@[simp] lemma on_query (q : Query) : (query q).on t = .ok (t.answer q) := rfl

@[simp] lemma on_ofExcept (r : Except Failure α) : (ofExcept r).on t = r := by
  cases r <;> rfl

@[simp] lemma on_bind (s : Session α) (f : α → Session β) :
    (s >>= f).on t = s.on t >>= fun a => (f a).on t := by
  change (s.bind f).on t = _
  induction s with
  | done a => rfl
  | fail e => rfl
  | ask q next ih => exact ih (t.answer q)

@[simp] lemma on_map (g : α → β) (s : Session α) : (g <$> s).on t = g <$> s.on t := by
  change (s >>= fun a => pure (g a)).on t = _
  rw [on_bind]
  cases s.on t <;> rfl

lemma on_bind_eq_ok {s : Session α} {f : α → Session β} {b : β} :
    (s >>= f).on t = .ok b ↔ ∃ a, s.on t = .ok a ∧ (f a).on t = .ok b := by
  rw [on_bind, bind_eq_ok]

variable {t} {tenant : String} {answer : (q : Query) → Except Unavailable q.Answer}

/-- What is returned in spite of questions without an answer is returned in any case. -/
lemma on_of_run (hans : ∀ q a, answer q = .ok a → a = t.answer q) {s : Session α} {a : α}
    (h : (s.run tenant answer).2 = .ok a) : s.on t = .ok a := by
  induction s with
  | done b => exact h
  | fail e => cases h
  | ask q next ih =>
    simp only [run] at h
    rcases hq : answer q with u | b
    · rw [hq] at h; cases h
    · rw [hq] at h
      obtain rfl := hans q b hq
      exact ih _ h

/-- What comes after a session is run with its result. -/
lemma run_bind (s : Session α) (f : α → Session β) :
    ((s >>= f).run tenant answer).2 =
      (s.run tenant answer).2 >>= fun a => ((f a).run tenant answer).2 := by
  change ((s.bind f).run tenant answer).2 = _
  induction s with
  | done a => rfl
  | fail e => rfl
  | ask q next ih =>
    simp only [bind, run]
    rcases answer q with u | a
    · rfl
    · exact ih a

lemma run_eq_on (hans : ∀ q, answer q = .ok (t.answer q)) (s : Session α) :
    (s.run tenant answer).2 = s.on t := by
  induction s with
  | done b => rfl
  | fail e => rfl
  | ask q next ih =>
    simp only [run, hans]
    exact ih _

end Session

namespace Directory

variable {α : Type} {d : Directory} {name : String}

lemma answer_of_answering (hd : d.failing = []) (q : Query) :
    d.answer name q = .ok ((d.tenant name).answer q) := by
  simp [answer, hd]

lemma answer_spec {q : Query} {a : q.Answer} (h : d.answer name q = .ok a) :
    a = (d.tenant name).answer q := by
  unfold answer at h
  split at h
  next => cases h
  next => exact (Except.ok.inj h).symm

/-- A directory that answers every question gives the result of the session. -/
lemma run_of_answering (hd : d.failing = []) (s : Session α) :
    (d.run name s).2 = s.on (d.tenant name) :=
  Session.run_eq_on (answer_of_answering hd) s

lemma run_bind {β : Type} (d : Directory) (name : String) (s : Session α) (f : α → Session β) :
    (d.run name (s >>= f)).2 = (d.run name s).2 >>= fun a => (d.run name (f a)).2 :=
  Session.run_bind s f

lemma run_map {β : Type} (d : Directory) (name : String) (g : α → β) (s : Session α) :
    (d.run name (g <$> s)).2 = (d.run name s).2.map g :=
  run_bind d name s fun a => pure (g a)

/-- Whatever a session returns it also returns when every question is answered. -/
lemma on_of_run {s : Session α} {a : α} (h : (d.run name s).2 = .ok a) :
    s.on (d.tenant name) = .ok a :=
  Session.on_of_run (fun _ _ => answer_spec) h

/-- Asking changes nothing that is kept. -/
@[simp] lemma tenant_run (d : Directory) (name name' : String) (s : Session α) :
    (d.run name s).1.tenant name' = d.tenant name' := rfl

/-- A directory for examples: roles that read and write on an account, and a user with each. -/
def sample : Directory :=
  (∅ : Directory).update "acme" fun t =>
    ((((t.addAccount ⟨1, "main"⟩).addRole ⟨2, "reader", .ofList ["read"]⟩).addRole
      ⟨3, "writer", .ofList ["read", "write"]⟩).addGrant ⟨4, 1, 2⟩).addGrant ⟨5, 1, 3⟩

end Directory

end Provisioning
