import Mathlib.Tactic.Lemma
import Provisioning.Directory.Basic
import Provisioning.Directory.Lookup

/-!
Two sessions that ask the same questions.

Sessions agree, up to a relation on results and one on failures, if they ask the same questions and
come to related ends whatever the answers (`Session.Agree`). So a directory is asked the same by
both, and what becomes of them is related (`Directory.run_agree`).
-/

namespace Provisioning

variable {α β γ δ : Type} {E : Failure → Failure → Prop}

/-- Two related results, or two related failures. -/
inductive SameEnd (E : Failure → Failure → Prop) (R : α → β → Prop) :
    Except Failure α → Except Failure β → Prop where
  | ok {a : α} {b : β} (h : R a b) : SameEnd E R (.ok a) (.ok b)
  | error {e e' : Failure} (h : E e e') : SameEnd E R (.error e) (.error e')

namespace Session

/-- Two sessions ask the same questions and come to related ends, whatever the answers. -/
inductive Agree (E : Failure → Failure → Prop) (R : α → β → Prop) :
    Session α → Session β → Prop where
  | done {a : α} {b : β} (h : R a b) : Agree E R (done a) (done b)
  | fail {e e' : Failure} (h : E e e') : Agree E R (fail e) (fail e')
  | ask {q : Query} {next : q.Answer → Session α} {next' : q.Answer → Session β}
    (h : ∀ a, Agree E R (next a) (next' a)) : Agree E R (ask q next) (ask q next')

variable {R : α → β → Prop} {S : γ → δ → Prop} {s : Session α} {s' : Session β}

lemma agree_refl (hE : ∀ e, E e e) (s : Session α) : s.Agree E Eq s := by
  induction s with
  | done a => exact .done rfl
  | fail e => exact .fail (hE e)
  | ask q next ih => exact .ask ih

lemma Agree.bind {f : α → Session γ} {g : β → Session δ} (hs : s.Agree E R s')
    (hf : ∀ a b, R a b → (f a).Agree E S (g b)) : (s >>= f).Agree E S (s' >>= g) := by
  change (s.bind f).Agree E S (s'.bind g)
  induction hs with
  | done h => exact hf _ _ h
  | fail h => exact .fail h
  | ask _ ih => exact .ask ih

lemma Agree.run (h : s.Agree E R s') (hE : ∀ e, E e e) (tenant : String)
    (answer : (q : Query) → Except Unavailable q.Answer) :
    (s.run tenant answer).1 = (s'.run tenant answer).1 ∧
      SameEnd E R (s.run tenant answer).2 (s'.run tenant answer).2 := by
  induction h with
  | done h => exact ⟨rfl, .ok h⟩
  | fail h => exact ⟨rfl, .error h⟩
  | @ask q next next' _ ih =>
    unfold Session.run
    rcases answer q with u | a
    · exact ⟨rfl, .error (hE _)⟩
    · obtain ⟨hasked, hend⟩ := ih a
      exact ⟨congrArg (q :: ·) hasked, hend⟩

end Session

/-- Sessions that agree ask a directory the same, and come to related ends. -/
lemma Directory.run_agree {R : α → β → Prop} {s : Session α} {s' : Session β}
    (h : s.Agree E R s') (hE : ∀ e, E e e) (d : Directory) (name : String) :
    (d.run name s).1 = (d.run name s').1 ∧ SameEnd E R (d.run name s).2 (d.run name s').2 := by
  obtain ⟨hasked, hend⟩ := h.run hE name (d.answer name)
  refine ⟨?_, hend⟩
  unfold Directory.run
  dsimp only
  rw [hasked]

namespace Resolving

variable {R : α → β → Prop} {S : γ → δ → Prop} {x : Resolving α} {y : Resolving β}

/-- Where the same is known before, two works ask the same questions, come to related ends and have
learnt the same. -/
def Agree (E : Failure → Failure → Prop) (R : α → β → Prop) (x : Resolving α) (y : Resolving β) :
    Prop :=
  ∀ l, (x.run l).Agree E (fun p q => R p.1 q.1 ∧ p.2 = q.2) (y.run l)

lemma agree_refl (hE : ∀ e, E e e) (x : Resolving α) : Agree E Eq x x := fun l => by
  have h := Session.agree_refl hE (x.run l)
  simpa only [← Prod.ext_iff] using h

lemma agree_pure {a : α} {b : β} (h : R a b) : Agree E R (pure a) (pure b) := fun _ =>
  .done ⟨h, rfl⟩

lemma agree_fail {e e' : Failure} (h : E e e') : Agree E R (fail e) (fail e') := fun _ => .fail h

lemma Agree.bind {f : α → Resolving γ} {g : β → Resolving δ} (hx : Agree E R x y)
    (hf : ∀ a b, R a b → Agree E S (f a) (g b)) : Agree E S (x >>= f) (y >>= g) := by
  refine fun l => (hx l).bind ?_
  rintro ⟨a, l₁⟩ ⟨b, -⟩ ⟨hR, rfl⟩
  exact hf a b hR l₁

lemma Agree.ite {p q : Prop} [Decidable p] [Decidable q] {x' : Resolving α} {y' : Resolving β}
    (hpq : p ↔ q) (hx : Agree E R x y) (hy : Agree E R x' y') :
    Agree E R (if p then x else x') (if q then y else y') := by
  by_cases hp : p
  · rw [if_pos hp, if_pos (hpq.mp hp)]
    exact hx
  · rw [if_neg hp, if_neg (mt hpq.mpr hp)]
    exact hy

lemma Agree.run' (h : Agree E R x y) (l : Lookups) : (x.run' l).Agree E R (y.run' l) :=
  (h l).bind fun _ _ hpq => .done hpq.1

end Resolving

end Provisioning
