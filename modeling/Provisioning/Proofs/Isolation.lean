import Provisioning.Attribute.BuiltIn
import Provisioning.Proofs.Availability
import Provisioning.Proofs.Storing

/-!
Tenants do not interfere.

Steps for any tenants come one after the other: work of the engine, with what follows from it stored
or not, and changes to the data of a tenant. A step reads the data of its own tenant and nothing
else of what is kept (`Directory.SameFor.perform`), and leaves the data of other tenants alone
(`Directory.sameFor_perform`). So what a tenant is answered in the course of many steps, and its
data in the end, is decided by its own data in the beginning and its own steps.
-/

namespace Provisioning

/-! ### Steps for a tenant -/

/-- Work of the engine, and its input. -/
inductive EngineWork where
  | operation (op : Operation)
  | loadSchema
  /-- The verdict on the first grants of a user. -/
  | initial (p : Policy) (user : Uuid) (acting : Option Uuid) (requested : List RequestedGrant)
  /-- Whether a principal may touch roles. -/
  | permission (p : Policy) (principal : Uuid) (targets : SortedSet String)

namespace EngineWork

/-- What work comes to. -/
abbrev Result : EngineWork → Type
  | operation op => op.Result
  | loadSchema => Schema
  | initial _ _ _ _ => Reconciliation
  | permission _ _ _ => Decision

def session : (w : EngineWork) → Session w.Result
  | operation op => op.session
  | loadSchema => Provisioning.loadSchema
  | initial p user acting requested => (p.rule.initial user acting requested).run' ∅
  | permission p principal targets => (p.rule.isPermitted principal targets).run' ∅

end EngineWork

/-- Stores what follows from an operation, if anything does. -/
def Operation.store : (op : Operation) → Tenant → op.Result → Tenant
  | validateAttributes _ _ _, t, _ => t
  | createUser _ _, t, o => t.store o
  | patchUser _ _, t, o => t.store o
  | associate _ user _ _, t, r => t.storeGrants user r
  | reconcile _ _ _ _ _, t, _ => t
  | defineAttribute _, t, ds => ds.foldl Tenant.addDefinition t
  | retireAttribute name, t, _ => t.removeDefinition name

/-- A change to the data of a tenant. -/
inductive DataChange where
  /-- Adds the attributes that every user has. -/
  | seedBuiltIn
  | addDefinition (d : AttributeDefinition)
  | removeDefinition (name : String)
  | addRole (r : Role)
  | removeRole (id : Uuid)
  | addAccount (a : Account)
  | addGrant (g : Grant)
  | replaceGrants (user : Uuid) (gs : List Grant)
  | storeValues (rows : List ValueRow) (cleared : List (Uuid × Uuid))

namespace DataChange

def apply : DataChange → Tenant → Tenant
  | seedBuiltIn, t => BuiltInField.definitions.foldl Tenant.addDefinition t
  | addDefinition d, t => t.addDefinition d
  | removeDefinition name, t => t.removeDefinition name
  | addRole r, t => t.addRole r
  | removeRole id, t => t.removeRole id
  | addAccount a, t => t.addAccount a
  | addGrant g, t => t.addGrant g
  | replaceGrants user gs, t => t.replaceGrants user gs
  | storeValues rows cleared, t => t.storeValues rows cleared

/-- What a change is answered with: whether there was something to remove, or the grants of the user
in question. -/
abbrev Answer : DataChange → Type
  | removeDefinition _ => Bool
  | removeRole _ => Bool
  | addGrant _ => List Grant
  | replaceGrants _ _ => List Grant
  | _ => Unit

def answer (t : Tenant) : (c : DataChange) → c.Answer
  | removeDefinition name => t.hasDefinition name
  | removeRole id => t.roles.contains id
  | addGrant g => (t.addGrant g).grantsOf g.user
  | replaceGrants user gs => (t.replaceGrants user gs).grantsOf user
  | seedBuiltIn => ()
  | addDefinition _ => ()
  | addRole _ => ()
  | addAccount _ => ()
  | storeValues _ _ => ()

end DataChange

/-- What may be done for a tenant. -/
inductive TenantAction where
  /-- Does work and stores nothing. -/
  | judge (w : EngineWork)
  /-- Runs an operation and stores what follows. -/
  | commit (op : Operation)
  | change (c : DataChange)

/-- The answer to an action; of work also the questions that were asked for it. -/
abbrev TenantAction.Answer : TenantAction → Type
  | judge w => Except Failure w.Result × List Call
  | commit op => Except Failure op.Result × List Call
  | change c => c.Answer

/-- Something done for a tenant. -/
structure TenantStep where
  tenant : String
  action : TenantAction

def TenantStep.isFor (name : String) (s : TenantStep) : Bool := s.tenant == name

/-- A step and its answer. -/
structure AnsweredStep where
  step : TenantStep
  answer : step.action.Answer

namespace Directory

/-- Does something for a tenant. The questions are counted anew for every piece of work. -/
def perform (d : Directory) (name : String) : (a : TenantAction) → Directory × a.Answer
  | .judge w =>
    let (d, result) := d.resetCalls.run name w.session
    (d, result, d.asked)
  | .commit op =>
    let (d, result) := keep name op.store (d.resetCalls.run name op.session)
    (d, result, d.asked)
  | .change c => (d.update name c.apply, c.answer (d.tenant name))

/-- The directory after steps. -/
def afterSteps (d : Directory) (ss : List TenantStep) : Directory :=
  ss.foldl (fun d s => (d.perform s.tenant s.action).1) d

/-- The steps with their answers. -/
def answers (d : Directory) : List TenantStep → List AnsweredStep
  | [] => []
  | s :: rest =>
    let (d, answer) := d.perform s.tenant s.action
    ⟨s, answer⟩ :: d.answers rest

/-- What a tenant is answered. -/
def answersTo (d : Directory) (name : String) (ss : List TenantStep) : List AnsweredStep :=
  (d.answers ss).filter (·.step.isFor name)

/-! ### One step -/

/-- Two directories do not differ in what a tenant may see. -/
structure SameFor (name : String) (d d' : Directory) : Prop where
  tenant : d.tenant name = d'.tenant name
  failing : d.failing = d'.failing

section Step

variable {α : Type} {name name' : String} {d d' d'' : Directory}

lemma SameFor.refl (name : String) (d : Directory) : SameFor name d d := ⟨rfl, rfl⟩

lemma SameFor.trans (h : SameFor name d d') (h' : SameFor name d' d'') : SameFor name d d'' :=
  ⟨h.tenant.trans h'.tenant, h.failing.trans h'.failing⟩

lemma SameFor.answer_eq (h : SameFor name d d') : d.answer name = d'.answer name := by
  funext q
  unfold answer
  rw [h.tenant, h.failing]

/-- Counted anew, the same questions are asked, and the result is the same. -/
lemma SameFor.run (h : SameFor name d d') (s : Session α) :
    (d.resetCalls.run name s).2 = (d'.resetCalls.run name s).2 ∧
      (d.resetCalls.run name s).1.asked = (d'.resetCalls.run name s).1.asked := by
  have hreset : SameFor name d.resetCalls d'.resetCalls := ⟨h.tenant, h.failing⟩
  unfold Directory.run
  rw [hreset.answer_eq]
  exact ⟨rfl, rfl⟩

lemma SameFor.update (h : SameFor name d d') (f : Tenant → Tenant) :
    SameFor name (d.update name f) (d'.update name f) where
  tenant := by rw [tenant_update, tenant_update, h.tenant]
  failing := h.failing

/-- What is stored follows from the data and the result alone. -/
lemma SameFor.keep {r : Except Failure α} (h : SameFor name d d') (store : Tenant → α → Tenant) :
    SameFor name (keep name store (d, r)).1 (keep name store (d', r)).1 := by
  cases r with
  | error e => exact h
  | ok a => exact h.update fun t => store t a

lemma keep_snd (name : String) (store : Tenant → α → Tenant) (p : Directory × Except Failure α) :
    (keep name store p).2 = p.2 ∧ (keep name store p).1.asked = p.1.asked := by
  obtain ⟨d, r⟩ := p
  cases r <;> exact ⟨rfl, rfl⟩

/-- A step is answered from the data of its tenant, and changes it in the same way. -/
lemma SameFor.perform (h : SameFor name d d') (a : TenantAction) :
    (d.perform name a).2 = (d'.perform name a).2 ∧
      SameFor name (d.perform name a).1 (d'.perform name a).1 := by
  cases a with
  | judge w =>
    obtain ⟨hresult, hasked⟩ := h.run w.session
    exact ⟨Prod.ext hresult hasked, h.tenant, h.failing⟩
  | commit op =>
    obtain ⟨hresult, hasked⟩ := h.run op.session
    obtain ⟨hkept, hkasked⟩ := keep_snd name op.store (d.resetCalls.run name op.session)
    obtain ⟨hkept', hkasked'⟩ := keep_snd name op.store (d'.resetCalls.run name op.session)
    refine ⟨Prod.ext (hkept.trans (hresult.trans hkept'.symm))
      (hkasked.trans (hasked.trans hkasked'.symm)), ?_⟩
    have hrun : SameFor name (d.resetCalls.run name op.session).1
      (d'.resetCalls.run name op.session).1 := ⟨h.tenant, h.failing⟩
    have hstored := hrun.keep (r := (d.resetCalls.run name op.session).2) op.store
    nth_rewrite 2 [hresult] at hstored
    exact hstored
  | change c =>
    refine ⟨?_, h.update c.apply⟩
    change c.answer (d.tenant name) = c.answer (d'.tenant name)
    rw [h.tenant]

lemma sameFor_update (hne : name' ≠ name) (d : Directory) (f : Tenant → Tenant) :
    SameFor name' (d.update name f) d where
  tenant := by rw [tenant_update, if_neg hne]
  failing := rfl

/-- A step leaves the data of other tenants alone. -/
lemma sameFor_perform (hne : name' ≠ name) (d : Directory) (a : TenantAction) :
    SameFor name' (d.perform name a).1 d := by
  cases a with
  | judge w => exact ⟨rfl, rfl⟩
  | commit op =>
    have hrun : SameFor name' (d.resetCalls.run name op.session).1 d := ⟨rfl, rfl⟩
    change SameFor name' (keep name op.store (d.resetCalls.run name op.session)).1 d
    generalize d.resetCalls.run name op.session = p at hrun
    obtain ⟨d₁, e | r⟩ := p
    · exact hrun
    · exact (sameFor_update hne d₁ fun t => op.store t r).trans hrun
  | change c => exact sameFor_update hne d c.apply

end Step

/-! ### Many steps -/

lemma answers_cons (d : Directory) (s : TenantStep) (ss : List TenantStep) :
    d.answers (s :: ss) =
      ⟨s, (d.perform s.tenant s.action).2⟩ :: (d.perform s.tenant s.action).1.answers ss := rfl

lemma afterSteps_cons (d : Directory) (s : TenantStep) (ss : List TenantStep) :
    d.afterSteps (s :: ss) = (d.perform s.tenant s.action).1.afterSteps ss := rfl

/-- What a tenant is answered, and what is kept for it, is what comes of its own steps. -/
lemma SameFor.steps {name : String} {d d' : Directory} (h : SameFor name d d')
    (ss : List TenantStep) :
    d.answersTo name ss = d'.answers (ss.filter (·.isFor name)) ∧
      SameFor name (d.afterSteps ss) (d'.afterSteps (ss.filter (·.isFor name))) := by
  unfold answersTo
  induction ss generalizing d d' with
  | nil => exact ⟨rfl, h⟩
  | cons s rest ih =>
    rw [answers_cons, afterSteps_cons, List.filter_cons, List.filter_cons]
    by_cases hs : s.isFor name
    · obtain rfl : s.tenant = name := beq_iff_eq.mp hs
      obtain ⟨hanswer, hsame⟩ := h.perform s.action
      obtain ⟨hrest, hafter⟩ := ih hsame
      rw [if_pos hs, if_pos hs, answers_cons, afterSteps_cons, hanswer, hrest]
      exact ⟨rfl, hafter⟩
    · have hne : name ≠ s.tenant := fun hname => hs (beq_iff_eq.mpr hname.symm)
      rw [if_neg hs, if_neg hs]
      exact ih ((sameFor_perform hne d s.action).trans h)

/-- **Tenants do not interfere**: if the steps of one tenant are left out, and even if other data
was kept for it in the beginning, another tenant is answered the same and has the same data in the
end. -/
theorem isolated {a b : String} (hne : a ≠ b) {d d' : Directory} (h : SameFor a d d')
    (ss : List TenantStep) :
    d.answersTo a ss = d'.answersTo a (ss.filter (!·.isFor b)) ∧
      (d.afterSteps ss).tenant a = (d'.afterSteps (ss.filter (!·.isFor b))).tenant a := by
  have hown : (ss.filter (!·.isFor b)).filter (·.isFor a) = ss.filter (·.isFor a) := by
    rw [List.filter_filter]
    refine List.filter_congr fun s _ => ?_
    by_cases hs : s.tenant = a <;> simp [TenantStep.isFor, hs, hne]
  obtain ⟨hanswers, hafter⟩ := h.steps ss
  obtain ⟨hanswers', hafter'⟩ := (SameFor.refl a d').steps (ss.filter (!·.isFor b))
  rw [hown] at hanswers' hafter'
  exact ⟨hanswers.trans hanswers'.symm, hafter.tenant.trans hafter'.tenant.symm⟩

/-- Steps for the example: another tenant has the same definition, a user with the login that is
wanted, and an account and a role with names and identifiers of the first tenant. -/
def sampleNeighbours : List TenantStep :=
  [⟨"other", .change (.addDefinition ⟨10, "login", .text, false, true, false, none, true⟩)⟩,
    ⟨"other", .change (.storeValues [⟨6, 10, "bob"⟩] [])⟩,
    ⟨"other", .change (.addRole ⟨2, "writer", ∅⟩)⟩,
    ⟨"other", .change (.addAccount ⟨3, "main"⟩)⟩,
    ⟨"acme", .commit (.createUser .standard
      ⟨7, .ofList [("login", .string "bob")], [⟨"main", "reader"⟩], some 4⟩)⟩]

/-- The login is still free for the first tenant, and the role is still there. -/
theorem isolated_sample :
    "acme" ≠ "other" ∧ SameFor "acme" sampleLogins sampleLogins ∧
      (sampleLogins.afterSteps sampleNeighbours).tenant "acme" =
        (sampleLogins.afterSteps (sampleNeighbours.filter (!·.isFor "other"))).tenant "acme" ∧
      ((sampleLogins.afterSteps sampleNeighbours).tenant "acme").valueOf 7 10 = some "bob" ∧
      ((sampleLogins.afterSteps sampleNeighbours).tenant "acme").grantsOf 7 = [⟨7, 1, 2⟩] ∧
      ((sampleLogins.afterSteps sampleNeighbours).tenant "other").valueOf 6 10 = some "bob" := by
  have hne : "acme" ≠ "other" := by decide
  have hsame : SameFor "acme" sampleLogins sampleLogins := .refl "acme" sampleLogins
  exact ⟨hne, hsame, (isolated hne hsame sampleNeighbours).2, by decide +kernel, by decide +kernel,
    by decide +kernel⟩

end Directory

end Provisioning
