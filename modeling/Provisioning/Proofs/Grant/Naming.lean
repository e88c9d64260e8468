import Provisioning.Proofs.Grant.Gate
import Provisioning.Proofs.Grant.Renamed

/-!
How accounts are named does not matter.

Verdicts are the same where requests differ only in how they name accounts, but for the texts that
errors repeat. And a request that repeats one before it, be its account named in another way, changes
nothing: it fits where the other does, takes away the same and gives the same
(`Directory.IgnoresNaming`).
-/

namespace Provisioning

section Repeated

variable {t : Tenant} {rule : PermissionRule} {user acting : Uuid} {held : List Entitlement}
  {r r' : ResolvedChange}

section Resolved

variable (h : t.RenamedResolved r r')

include h

lemma Tenant.RenamedResolved.takes_eq (e : Entitlement) : r.takes e = r'.takes e := by
  unfold ResolvedChange.takes
  rw [h.change.op, h.role, h.account]

lemma Tenant.RenamedResolved.given?_eq : r.given? = r'.given? := by
  unfold ResolvedChange.given?
  rw [h.change.op, h.role, h.account]

lemma Tenant.RenamedResolved.fits (hfits : r.Fits held) : r'.Fits held := by
  have hop := h.change.op
  have hrole := h.role
  have haccount := h.account
  cases hfits with
  | removeOne op target mem => exact .removeOne (hop ▸ op) (hrole ▸ target) (haccount ▸ mem)
  | removeAll op target mem account =>
    exact .removeAll (hop ▸ op) (hrole ▸ target) mem (haccount ▸ account)
  | add op target fresh => exact .add (hop ▸ op) (hrole ▸ target) (haccount ▸ fresh)

lemma Tenant.RenamedResolved.meetsLostRole_iff :
    t.MeetsLostRole held r ↔ t.MeetsLostRole held r' := by
  unfold MeetsLostRole
  rw [h.change.op, h.role, h.account]

end Resolved

section Lists

variable {α : Type} {a a' : α} {as bs : List α} {P : α → Prop}

lemma forall_repeated (ha : a ∈ as) (hP : P a → P a') :
    (∀ b ∈ as ++ a' :: bs, P b) ↔ ∀ b ∈ as ++ bs, P b := by
  simp only [List.forall_mem_append, List.forall_mem_cons]
  exact ⟨fun h => ⟨h.1, h.2.2⟩, fun h => ⟨h.1, hP (h.1 a ha), h.2⟩⟩

lemma exists_repeated (ha : a ∈ as) (hP : P a' → P a) :
    (∃ b ∈ as ++ a' :: bs, P b) ↔ ∃ b ∈ as ++ bs, P b := by
  constructor
  · rintro ⟨b, hb, hPb⟩
    rw [List.mem_append, List.mem_cons] at hb
    rcases hb with hb | rfl | hb
    · exact ⟨b, List.mem_append_left bs hb, hPb⟩
    · exact ⟨a, List.mem_append_left bs ha, hP hPb⟩
    · exact ⟨b, List.mem_append_right as hb, hPb⟩
  · rintro ⟨b, hb, hPb⟩
    rw [List.mem_append] at hb
    exact ⟨b, List.mem_append.mpr (hb.imp_right (List.mem_cons_of_mem a')), hPb⟩

/-- What is drawn from a repetition was drawn before. -/
lemma distinctBy_filterMap_repeated {β γ : Type} [BEq γ] [LawfulBEq γ] {f : β → γ}
    {seen : List γ} {g : α → Option β} (ha : a ∈ as) (hg : g a = g a') :
    distinctBy f seen ((as ++ a' :: bs).filterMap g) = distinctBy f seen ((as ++ bs).filterMap g) := by
  rcases hb : g a' with _ | b
  · rw [List.filterMap_append, List.filterMap_append, List.filterMap_cons_none hb]
  · rw [List.filterMap_append, List.filterMap_append, List.filterMap_cons_some hb]
    refine distinctBy_append_cons (Or.inr (List.mem_map_of_mem ?_)) _
    exact List.mem_filterMap.mpr ⟨a, ha, hg.trans hb⟩

end Lists

section Batch

variable {current : List Grant} {before after : List ResolvedChange} (hr : r ∈ before)
  (h : t.RenamedResolved r r')

include hr h

lemma takesAny_repeated (e : Entitlement) :
    takesAny (before ++ r' :: after) e = takesAny (before ++ after) e := by
  unfold takesAny
  rw [Bool.eq_iff_iff, List.any_eq_true, List.any_eq_true]
  exact exists_repeated hr fun htakes => h.takes_eq e ▸ htakes

lemma distinctGrants_repeated (user : Uuid) :
    distinctGrants ((before ++ r' :: after).filterMap (PermissionRule.grantOf? user)) =
      distinctGrants ((before ++ after).filterMap (PermissionRule.grantOf? user)) :=
  distinctBy_filterMap_repeated hr (h.grantOf?_eq user)

lemma ofList_roles_repeated :
    SortedSet.ofList (((before ++ r' :: after).filterMap (·.role)).map Prod.snd) =
      SortedSet.ofList (((before ++ after).filterMap (·.role)).map Prod.snd) := by
  refine SortedSet.ext_mem fun name => ?_
  rw [SortedSet.mem_ofList, SortedSet.mem_ofList, List.map_filterMap, List.map_filterMap,
    List.mem_filterMap, List.mem_filterMap]
  exact exists_repeated hr fun hname => h.role ▸ hname

lemma fits_repeated :
    (∀ q ∈ before ++ r' :: after, q.Fits held) ↔ ∀ q ∈ before ++ after, q.Fits held :=
  forall_repeated hr h.fits

lemma found_repeated : (∀ q ∈ before ++ r' :: after, ¬t.MeetsLostRole held q) ↔
    ∀ q ∈ before ++ after, ¬t.MeetsLostRole held q :=
  forall_repeated hr (mt h.meetsLostRole_iff.mpr)

lemma drains_repeated : Drains held (before ++ r' :: after) ↔ Drains held (before ++ after) := by
  unfold Drains
  simp only [takesAny_repeated hr h]
  refine and_congr_right fun _ => and_congr_right fun _ => forall_repeated hr ?_
  rw [h.change.op]
  exact id

lemma outcomeOf_repeated (user : Uuid)
    (hfits : ∀ q ∈ before ++ after, q.Fits (current.map Grant.entitlement)) :
    outcomeOf user current (byPriority (before ++ r' :: after)) =
      outcomeOf user current (byPriority (before ++ after)) := by
  have hadditions : additions user (byPriority (before ++ r' :: after)) =
      additions user (byPriority (before ++ after)) := by
    unfold additions
    rw [filterMap_given?_byPriority, filterMap_given?_byPriority,
      distinctBy_filterMap_repeated hr h.given?_eq]
  unfold outcomeOf
  rw [carryOut_byPriority ((fits_repeated hr h).mpr hfits), carryOut_byPriority hfits,
    hadditions]
  simp only [takesAny_byPriority, takesAny_repeated hr h]

end Batch

section Changes

variable {before after : List Change} {c c' : Change}

lemma Tenant.passes_iff {changes : List Change} : t.Passes held changes ↔
    (∀ c ∈ changes, ¬t.Unknown c) ∧ (∀ r ∈ t.resolveAll changes, ¬t.MeetsLostRole held r) ∧
      (∀ r ∈ t.resolveAll changes, r.Fits held) ∧ ¬Drains held (t.resolveAll changes) :=
  ⟨fun h => ⟨h.known, h.found, h.fits, h.keeps⟩, fun h => ⟨h.1, h.2.1, h.2.2.1, h.2.2.2⟩⟩

variable (hc : c ∈ before) (h : t.Renamed c c')

include hc h

lemma Tenant.known_repeated (after : List Change) :
    (∀ b ∈ before ++ c' :: after, ¬t.Unknown b) ↔ ∀ b ∈ before ++ after, ¬t.Unknown b :=
  forall_repeated hc (mt h.unknown_iff.mpr)

/-- A repetition is looked up to a repetition. -/
lemma Tenant.exists_repeated_resolved (hknown : ∀ b ∈ before ++ after, ¬t.Unknown b) :
    ∃ r r', r ∈ t.resolveAll before ∧ t.RenamedResolved r r' ∧
      t.resolveAll (before ++ c' :: after) =
        t.resolveAll before ++ r' :: t.resolveAll after := by
  have hresolved := h.resolve?
  rcases hr : t.resolve? c with _ | r
  · exact absurd (resolve?_eq_none.mp hr) (hknown c (List.mem_append_left after hc))
  rw [hr] at hresolved
  generalize hr' : t.resolve? c' = resolved' at hresolved
  cases hresolved with
  | @some _ r' hrenamed =>
    refine ⟨r, r', List.mem_filterMap.mpr ⟨c, hc, hr⟩, hrenamed, ?_⟩
    unfold resolveAll
    rw [List.filterMap_append, List.filterMap_cons_some hr']

/-- A repetition is let through as far as the batch without it is. -/
lemma Tenant.passes_repeated :
    t.Passes held (before ++ c' :: after) ↔ t.Passes held (before ++ after) := by
  rw [passes_iff, passes_iff, known_repeated hc h after]
  refine and_congr_right fun hknown => ?_
  obtain ⟨r, r', hr, hrenamed, hresolved⟩ := exists_repeated_resolved hc h hknown
  rw [hresolved, found_repeated hr hrenamed, fits_repeated hr hrenamed,
    drains_repeated hr hrenamed]
  unfold resolveAll
  rw [List.filterMap_append]

lemma Tenant.outcomeOf_resolveAll_repeated (user : Uuid) {current : List Grant}
    (passes : t.Passes (current.map Grant.entitlement) (before ++ after)) :
    outcomeOf user current (byPriority (t.resolveAll (before ++ c' :: after))) =
      outcomeOf user current (byPriority (t.resolveAll (before ++ after))) := by
  obtain ⟨r, r', hr, hrenamed, hresolved⟩ := exists_repeated_resolved hc h passes.known
  have happend : t.resolveAll (before ++ after) = t.resolveAll before ++ t.resolveAll after :=
    List.filterMap_append
  have fits := passes.fits
  rw [happend] at fits
  rw [hresolved, happend, outcomeOf_repeated hr hrenamed user fits]

/-- A batch does the same with and without a repetition. -/
lemma Tenant.applied_reconcile_repeated (rule : PermissionRule) (user acting : Uuid)
    (current : List Grant) (hd : t.roles.DistinctNames) (done : GrantChanges) :
    ((rule.reconcile user acting current (before ++ c' :: after)).run' ∅).on t =
        .ok (.applied done) ↔
      ((rule.reconcile user acting current (before ++ after)).run' ∅).on t =
        .ok (.applied done) := by
  have hne : before ≠ [] := List.ne_nil_of_mem hc
  rw [(t.ends_reconcile rule user acting current hd (by simp)).stages.applied done,
    (t.ends_reconcile rule user acting current hd (by simp [hne])).stages.applied done,
    passes_repeated hc h]
  refine and_congr_right fun passes => ?_
  rw [touchedRoles_eq user, touchedRoles_eq user, outcomeOf_resolveAll_repeated hc h user passes]

end Changes

/-- First grants are the same with and without a repetition. -/
lemma Tenant.applied_initial_repeated {before after : List RequestedGrant} {q q' : RequestedGrant}
    (hq : q ∈ before) (h : t.RenamedRequest q q') (rule : PermissionRule) (user : Uuid)
    (acting : Option Uuid) (hd : t.roles.DistinctNames) (done : GrantChanges) :
    ((rule.initial user acting (before ++ q' :: after)).run' ∅).on t = .ok (.applied done) ↔
      ((rule.initial user acting (before ++ after)).run' ∅).on t = .ok (.applied done) := by
  have hc : q.toChange ∈ before.map RequestedGrant.toChange := List.mem_map_of_mem hq
  have hrenamed : t.Renamed q.toChange q'.toChange := h.toChange
  obtain ⟨l, hl, hon⟩ := rule.on_initial user hd acting (before ++ q' :: after)
  obtain ⟨l', hl', hon'⟩ := rule.on_initial user hd acting (before ++ after)
  rw [Resolving.on_run', Resolving.on_run', hon, hon']
  dsimp only
  rw [List.map_append, List.map_append, List.map_cons]
  have hknown_iff := Tenant.known_repeated hc hrenamed
    (after.map RequestedGrant.toChange)
  by_cases hknown : ∀ b ∈ before.map RequestedGrant.toChange ++
      after.map RequestedGrant.toChange, ¬t.Unknown b
  · obtain ⟨r, r', hr, hresolved, heq⟩ := exists_repeated_resolved hc hrenamed hknown
    have happend : t.resolveAll (before.map RequestedGrant.toChange ++
        after.map RequestedGrant.toChange) = t.resolveAll (before.map RequestedGrant.toChange) ++
          t.resolveAll (after.map RequestedGrant.toChange) := List.filterMap_append
    rw [missingReferencesOf_eq_nil.mpr hknown,
      missingReferencesOf_eq_nil.mpr (hknown_iff.mpr hknown), heq, happend,
      distinctGrants_repeated hr hresolved, ofList_roles_repeated hr hresolved]
    rw [List.isEmpty_nil, Bool.not_true, if_neg Bool.false_ne_true, if_neg Bool.false_ne_true]
    split
    · exact Iff.rfl
    · cases acting with
      | none => exact Iff.rfl
      | some acting => exact rule.applied_permit_iff acting hl hl' hd _ _ _ _ _
  · have hmissing := mt missingReferencesOf_eq_nil.mp hknown
    have hmissing' := mt missingReferencesOf_eq_nil.mp (mt hknown_iff.mp hknown)
    rw [List.isEmpty_eq_false_iff.mpr hmissing, List.isEmpty_eq_false_iff.mpr hmissing']
    exact iff_of_false (fun h => by cases h) fun h => by cases h

end Repeated

namespace Directory

/-- How accounts are named makes no difference to verdicts. -/
structure IgnoresNaming (d : Directory) (name : String) (p : Policy) (user : Uuid) : Prop where
  /-- Batches that differ at most in how they name accounts end in the same way. -/
  reconcile (acting : Uuid) (current : List Grant) {changes changes' : List Change}
    (h : List.Forall₂ (d.tenant name).Renamed changes changes') :
    SameEnd Eq (d.tenant name).SameVerdict
      (d.run name (p.reconcile user acting current changes)).2
      (d.run name (p.reconcile user acting current changes')).2
  /-- So do first grants. -/
  initial (acting : Option Uuid) {requested requested' : List RequestedGrant}
    (h : List.Forall₂ (d.tenant name).RenamedRequest requested requested') :
    SameEnd Eq (d.tenant name).SameVerdict
      (d.run name ((p.rule.initial user acting requested).run' ∅)).2
      (d.run name ((p.rule.initial user acting requested').run' ∅)).2
  /-- A change that repeats one before it, also with its account named in another way, is as good as
  not there. -/
  reconcile_repeated (acting : Uuid) (current : List Grant) {before after : List Change}
    {c c' : Change} (hc : c ∈ before) (h : (d.tenant name).Renamed c c') (done : GrantChanges) :
    (d.run name (p.reconcile user acting current (before ++ c' :: after))).2 =
        .ok (.applied done) ↔
      (d.run name (p.reconcile user acting current (before ++ after))).2 = .ok (.applied done)
  /-- So is a first grant that repeats one before it. -/
  initial_repeated (acting : Option Uuid) {before after : List RequestedGrant}
    {q q' : RequestedGrant} (hq : q ∈ before) (h : (d.tenant name).RenamedRequest q q')
    (done : GrantChanges) :
    (d.run name ((p.rule.initial user acting (before ++ q' :: after)).run' ∅)).2 =
        .ok (.applied done) ↔
      (d.run name ((p.rule.initial user acting (before ++ after)).run' ∅)).2 =
        .ok (.applied done)

/-- **An account may be named by its name or by its identifier**, in whatever form: the verdict on a
batch, or on first grants, is the same, but for the texts that its errors repeat, and an account
that is named in two ways is one. -/
theorem ignoresNaming (d : Directory) (name : String) (p : Policy) (user : Uuid)
    (hd : d.failing = []) (hnames : (d.tenant name).roles.DistinctNames) :
    d.IgnoresNaming name p user where
  reconcile acting current _ _ h := by
    rw [run_of_answering hd, run_of_answering hd]
    exact p.rule.sameEnd_reconcile user acting hnames current h
  initial acting _ _ h := by
    rw [run_of_answering hd, run_of_answering hd]
    exact p.rule.sameEnd_initial user hnames acting h
  reconcile_repeated acting current _ _ _ _ hc h done := by
    rw [run_of_answering hd, run_of_answering hd]
    exact Tenant.applied_reconcile_repeated hc h p.rule user acting current hnames done
  initial_repeated acting _ _ _ _ hq h done := by
    rw [run_of_answering hd, run_of_answering hd]
    exact Tenant.applied_initial_repeated hq h p.rule user acting hnames done

/-- An account is named by its name, and by its identifier in braces and without hyphens. Nothing is
given twice, and a refusal repeats the text. -/
theorem ignoresNaming_sample :
    let named := Change.add "main" "reader"
    let braced := Change.add "\x7b00000000-0000-0000-0000-000000000001\x7d" "reader"
    let bare := Change.add "00000000000000000000000000000001" "reader"
    sample.failing = [] ∧ (sample.tenant "acme").roles.DistinctNames ∧
      (sample.tenant "acme").Renamed named braced ∧ (sample.tenant "acme").Renamed braced bare ∧
      (sample.run "acme" (Policy.standard.reconcile 6 5 [] [named, braced])).2 =
        .ok (.applied ⟨[⟨6, 1, 2⟩], [⟨6, 1, 2⟩], []⟩) ∧
      SameEnd Eq (sample.tenant "acme").SameVerdict
        (.ok (.rejected (.invalidOperations [braced.refuse .alreadyHeld])
          [braced.refuse .alreadyHeld]))
        (sample.run "acme" (Policy.standard.reconcile 6 5 [⟨6, 1, 2⟩] [bare])).2 := by
  intro named braced bare
  have hsame := ignoresNaming sample "acme" .standard 6 rfl (by decide)
  have hmain : (sample.tenant "acme").StandsFor "main" 1 :=
    .name (a := ⟨1, "main"⟩) (by decide) (by decide)
  have hrenamed : (sample.tenant "acme").Renamed named braced :=
    ⟨.inr ⟨1, hmain, .identifier (by decide)⟩, rfl, rfl⟩
  have hrenamed' : (sample.tenant "acme").Renamed braced bare :=
    ⟨.inr ⟨1, .identifier (by decide), .identifier (by decide)⟩, rfl, rfl⟩
  have hrepeated : (sample.run "acme"
      (Policy.standard.reconcile 6 5 [] ([named] ++ braced :: []))).2 =
        .ok (.applied ⟨[⟨6, 1, 2⟩], [⟨6, 1, 2⟩], []⟩) :=
    (hsame.reconcile_repeated 5 [] (List.mem_singleton_self named) hrenamed _).mpr (by decide)
  have hrefused := hsame.reconcile 5 [⟨6, 1, 2⟩] (.cons hrenamed' .nil)
  have hbraced : (sample.run "acme" (Policy.standard.reconcile 6 5 [⟨6, 1, 2⟩] [braced])).2 =
      .ok (.rejected (.invalidOperations [braced.refuse .alreadyHeld])
        [braced.refuse .alreadyHeld]) := by decide
  rw [hbraced] at hrefused
  exact ⟨rfl, by decide, hrenamed, hrenamed', hrepeated, hrefused⟩

end Directory

end Provisioning
