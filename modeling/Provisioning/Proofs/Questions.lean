import Provisioning.Proofs.Session

/-!
The questions that a session asks.

Where every question is answered, a session asks a fixed list of questions (`Session.questions`). A
directory that leaves some of them unanswered is asked the same ones up to the first that it does
not answer, and there the session ends (`Directory.run_eq`). `Session.Orderly` says in which order
the questions of a session come, whatever the answers.
-/

namespace Provisioning

/-- A question was not answered. -/
def Failure.isUnanswered : Failure → Bool
  | unanswered _ _ _ => true
  | _ => false

namespace Session

variable {α β : Type} (t : Tenant)

/-- The questions that a session asks when every question is answered. -/
def questions : Session α → List Query
  | done _ => []
  | fail _ => []
  | ask q next => q :: (next (t.answer q)).questions

@[simp] lemma questions_bind (s : Session α) (f : α → Session β) :
    (s >>= f).questions t = s.questions t ++
      match s.on t with
      | .ok a => (f a).questions t
      | .error _ => [] := by
  change (s.bind f).questions t = _
  induction s with
  | done a => rfl
  | fail e => rfl
  | ask q next ih => exact congrArg (q :: ·) (ih (t.answer q))

/-- What asks nothing can follow. -/
lemma questions_finish (s : Session α) {f : α → Session β} (hf : ∀ a, (f a).questions t = []) :
    (s >>= f).questions t = s.questions t := by
  rw [questions_bind]
  rcases s.on t with e | a
  · exact List.append_nil _
  · dsimp only
    rw [hf, List.append_nil]

/-- Where some questions are not answered, no others are asked, and not in another order. -/
lemma questions_of_run {t : Tenant} {tenant : String}
    {answer : (q : Query) → Except Unavailable q.Answer}
    (hans : ∀ q a, answer q = .ok a → a = t.answer q) (s : Session α) :
    (s.run tenant answer).1 <+: s.questions t := by
  induction s with
  | done a => exact List.prefix_refl []
  | fail e => exact List.prefix_refl []
  | ask q next ih =>
    unfold run questions
    rcases hq : answer q with u | a
    · exact List.prefix_append [q] _
    · obtain rfl := hans q a hq
      exact List.prefix_cons_inj q |>.mpr (ih _)

/-! ### The order of questions -/

/-- A session asks at most questions of the given sorts, in the given order, and does not itself say
that one was not answered. -/
inductive Orderly : List Call → Session α → Prop where
  | done (order : List Call) (a : α) : Orderly order (done a)
  | fail (order : List Call) (e : Failure) (h : e.isUnanswered = false) : Orderly order (fail e)
  | ask {order : List Call} (q : Query) (next : q.Answer → Session α)
    (h : ∀ a, Orderly order (next a)) : Orderly (q.call :: order) (ask q next)
  | skip {order : List Call} (c : Call) {s : Session α} (h : Orderly order s) :
    Orderly (c :: order) s

section Orderly

variable {t} {order order' : List Call} {s : Session α}

lemma orderly_query (q : Query) : Orderly [q.call] (query q) := .ask q _ fun a => .done [] a

lemma orderly_ofExcept {r : Except Failure α} (h : ∀ e, r = .error e → e.isUnanswered = false) :
    Orderly [] (ofExcept r) := by
  cases r with
  | ok a => exact .done [] a
  | error e => exact .fail [] e (h e rfl)

/-- Work that asks at most one question. -/
lemma orderly_ite_query (p : Prop) [Decidable p] (q : Query) (a : q.Answer) :
    Orderly [q.call] (if p then pure a else query q) := by
  split
  · exact .done _ a
  · exact orderly_query q

lemma Orderly.prepend (h : s.Orderly order) (order' : List Call) : s.Orderly (order' ++ order) := by
  induction order' with
  | nil => exact h
  | cons c rest ih => exact .skip c ih

lemma Orderly.bind {f : α → Session β} (hs : s.Orderly order) (hf : ∀ a, (f a).Orderly order') :
    (s >>= f).Orderly (order ++ order') := by
  change (s.bind f).Orderly _
  induction hs with
  | done order a => exact (hf a).prepend order
  | fail order e h => exact .fail _ e h
  | ask q next _ ih => exact .ask q _ ih
  | skip c _ ih => exact .skip c ih

/-- What asks nothing can follow. -/
lemma Orderly.finish {f : α → Session β} (hs : s.Orderly order) (hf : ∀ a, (f a).Orderly []) :
    (s >>= f).Orderly order := by
  have hbind := hs.bind hf
  rwa [List.append_nil] at hbind

lemma Orderly.map (hs : s.Orderly order) (g : α → β) : (g <$> s).Orderly order :=
  hs.finish fun a => .done [] (g a)

/-- The questions of the session are asked in this order. -/
lemma Orderly.sublist (h : s.Orderly order) (t : Tenant) :
    ((s.questions t).map Query.call).Sublist order := by
  induction h with
  | done | fail => exact List.nil_sublist _
  | ask q next _ ih => exact (ih (t.answer q)).cons_cons q.call
  | skip c _ ih => exact ih.cons c

/-- Where every question is answered, nothing fails for want of an answer. -/
lemma Orderly.isUnanswered_of_on (h : s.Orderly order) {e : Failure} (he : s.on t = .error e) :
    e.isUnanswered = false := by
  induction h with
  | done order a => cases he
  | fail order e' h =>
    obtain rfl := Except.error.inj he
    exact h
  | ask q next _ ih => exact ih (t.answer q) he
  | skip c _ ih => exact ih he

end Orderly

end Session

namespace Directory

/-- Questions of its sort are not answered. -/
def leavesOpen (d : Directory) (q : Query) : Bool := d.failing.contains q.call

/-- The failure that a question is not answered. -/
def unanswered (name : String) (q : Query) : Failure :=
  .unanswered q.call (q.keys name) ⟨q.call, name⟩

variable {α : Type} (d : Directory) (name : String) (s : Session α)

/-- The first question of a session that is not answered. -/
def firstOpen? : Option Query := (s.questions (d.tenant name)).find? d.leavesOpen

variable {d name}

lemma answer_of_leavesOpen {q : Query} (h : d.leavesOpen q) :
    d.answer name q = .error ⟨q.call, name⟩ := if_pos h

lemma answer_of_not_leavesOpen {q : Query} (h : ¬d.leavesOpen q) :
    d.answer name q = .ok ((d.tenant name).answer q) := if_neg h

/-- **What becomes of a session**: what becomes of it when every question is answered, unless one
of its questions is not. -/
lemma run_eq (d : Directory) (name : String) (s : Session α) :
    (d.run name s).2 =
      match d.firstOpen? name s with
      | some q => .error (unanswered name q)
      | none => s.on (d.tenant name) := by
  change (s.run name (d.answer name)).2 = _
  unfold firstOpen?
  induction s with
  | done a => rfl
  | fail e => rfl
  | ask q next ih =>
    unfold Session.run Session.questions
    by_cases hq : d.leavesOpen q
    · rw [answer_of_leavesOpen hq, List.find?_cons_of_pos hq]
      rfl
    · rw [answer_of_not_leavesOpen hq, List.find?_cons_of_neg hq]
      exact ih _

/-- A session asks its questions up to the first that is not answered. -/
lemma asked_run (d : Directory) (name : String) (s : Session α) :
    (d.run name s).1.asked = d.asked ++
      (((s.questions (d.tenant name)).takeWhile (!d.leavesOpen ·)) ++
        (d.firstOpen? name s).toList).map Query.call := by
  change d.asked ++ (s.run name (d.answer name)).1.map Query.call = _
  unfold firstOpen?
  congr 2
  induction s with
  | done a => rfl
  | fail e => rfl
  | ask q next ih =>
    unfold Session.run Session.questions
    by_cases hq : d.leavesOpen q
    · rw [answer_of_leavesOpen hq, List.find?_cons_of_pos hq,
        List.takeWhile_cons_of_neg (by simpa using hq)]
      rfl
    · rw [answer_of_not_leavesOpen hq, List.find?_cons_of_neg hq,
        List.takeWhile_cons_of_pos (by simpa using hq)]
      exact congrArg (q :: ·) (ih _)

variable {s}

lemma firstOpen?_eq_none :
    d.firstOpen? name s = none ↔ ∀ q ∈ s.questions (d.tenant name), q.call ∉ d.failing := by
  simp [firstOpen?, leavesOpen]

lemma firstOpen?_eq_some {q : Query} :
    d.firstOpen? name s = some q ↔ q.call ∈ d.failing ∧ ∃ before after,
      s.questions (d.tenant name) = before ++ q :: after ∧ ∀ q' ∈ before, q'.call ∉ d.failing := by
  simp [firstOpen?, leavesOpen, List.find?_eq_some_iff_append]

end Directory

end Provisioning
