import Provisioning.Proofs.Classification
import Provisioning.Proofs.Maintenance

/-!
Attributes that share an identifier.

A schema looks its attributes up by name, and whoever defines an attribute chooses its identifier,
under which values are stored. An attribute that takes the place of another gets the identifier of
that one, but the identifier of a new attribute is taken as it is given: nothing compares it with
those in use. So identifiers stay distinct exactly if every new attribute comes with one that no
attribute has at that time (`Schema.Fresh`).
-/

namespace Provisioning.Schema

variable {s s' : Schema} {d d' : AttributeDefinition} {name : String}

/-- Where a change adds an attribute, no attribute has its identifier. -/
def Fresh (s : Schema) : Change → Prop
  | .define d => (∃ r, s.define d = .ok r) → s.resolve d.name = none →
      ∀ e ∈ s.definitions, e.id ≠ d.id
  | .retire _ => True

/-- Every one of several changes is fresh where it is made. -/
def AllFresh (s : Schema) : List Change → Prop
  | [] => True
  | c :: rest => s.Fresh c ∧ (s.after c).AllFresh rest

/-! ### One change -/

/-- What is defined has an identifier of its own if no attribute of another name has it. -/
lemma distinctIds_define (hs : s.Coherent) (hids : s.DistinctIds)
    (h : s.define d = .ok (d', s')) :
    s'.DistinctIds ↔ ∀ e ∈ s.definitions, e.key ≠ d.key → e.id ≠ d'.id := by
  have hmem := fun e => hs.mem_definitions_define (e := e) h
  have hkey : d'.key = d.key := (define_spec h).1 ▸ s.key_placed d
  refine ⟨fun hids' e he hne hid => ?_, fun hother e he f hf hid => ?_⟩
  · have heq := hids' e ((hmem e).mpr (.inr ⟨he, hne⟩)) d' ((hmem d').mpr (.inl rfl)) hid
    exact hne (heq ▸ hkey)
  · rcases (hmem e).mp he with rfl | ⟨he, hene⟩ <;> rcases (hmem f).mp hf with rfl | ⟨hf, hfne⟩
    · rfl
    · exact absurd hid.symm (hother f hf hfne)
    · exact absurd hid (hother e he hene)
    · exact hids e he f hf hid

/-- An attribute that takes the place of another keeps its identifier; a new one brings its own. -/
lemma distinctIds_define_iff (hs : s.Coherent) (hids : s.DistinctIds)
    (h : s.define d = .ok (d', s')) :
    s'.DistinctIds ↔ (s.resolve d.name = none → ∀ e ∈ s.definitions, e.id ≠ d.id) := by
  have hplaced := (define_spec h).1.trans (placed_eq s d)
  rw [distinctIds_define hs hids h]
  rcases hold : s.resolve d.name with _ | old
  · rw [hold] at hplaced
    obtain rfl : d' = d := hplaced
    have hne : ∀ e ∈ s.definitions, e.key ≠ d'.key := fun e he hkey => by
      rw [hs.resolve_eq_some_iff.mpr ⟨he, hkey⟩] at hold
      cases hold
    exact ⟨fun hother _ e he => hother e he (hne e he), fun hnew e he _ => hnew rfl e he⟩
  · rw [hold] at hplaced
    obtain ⟨hmem, hkey⟩ := hs.resolve_eq_some_iff.mp hold
    have hid : d'.id = old.id := by rw [hplaced]
    refine ⟨fun _ h => (by cases h), fun _ e he hne heq => hne ?_⟩
    rw [hids e he old hmem (heq.trans hid)]
    exact hkey

lemma distinctIds_retire (hs : s.Coherent) (hids : s.DistinctIds)
    (h : s.retire name = .ok (d, s')) : s'.DistinctIds := by
  intro e he f hf
  exact hids e ((hs.mem_definitions_retire h).mp he).1 f ((hs.mem_definitions_retire h).mp hf).1

/-- Identifiers stay distinct exactly if a change is fresh. -/
lemma distinctIds_after_iff (hs : s.Coherent) (hids : s.DistinctIds) (c : Change) :
    (s.after c).DistinctIds ↔ s.Fresh c := by
  rcases hattempt : s.attempt c with refusal | ⟨d', s'⟩
  · rw [after_of_error hattempt]
    refine ⟨fun _ => ?_, fun _ => hids⟩
    cases c with
    | retire name => trivial
    | define d =>
      rintro ⟨r, hr⟩
      cases hr.symm.trans hattempt
  · rw [after_of_ok hattempt]
    cases c with
    | retire name => exact ⟨fun _ => trivial, fun _ => distinctIds_retire hs hids hattempt⟩
    | define d =>
      rw [distinctIds_define_iff hs hids hattempt]
      exact ⟨fun hnew _ => hnew, fun hfresh => hfresh ⟨_, hattempt⟩⟩

/-! ### Many changes -/

lemma Coherent.after (hs : s.Coherent) (c : Change) : (s.after c).Coherent :=
  afterAll_of_attempt hs (fun _ c _ _ hs h => by
    cases c with
    | define d => exact hs.define h
    | retire name => exact hs.retire h) [c]

/-- Identifiers are distinct all along exactly if all changes are fresh. -/
lemma distinctIds_afterAll_iff (hs : s.Coherent) (hids : s.DistinctIds) (cs : List Change) :
    (∀ past, past <+: cs → (s.afterAll past).DistinctIds) ↔ s.AllFresh cs := by
  induction cs generalizing s with
  | nil =>
    refine ⟨fun _ => trivial, fun _ past hpast => ?_⟩
    obtain rfl := List.prefix_nil.mp hpast
    exact hids
  | cons c rest ih =>
    unfold AllFresh
    rw [← distinctIds_after_iff hs hids]
    refine ⟨fun hall => ?_, ?_⟩
    · have hc : (s.after c).DistinctIds := hall [c] (List.prefix_cons_inj c |>.mpr List.nil_prefix)
      exact ⟨hc, (ih (hs.after c) hc).mp fun past hpast =>
        hall (c :: past) ((List.prefix_cons_inj c).mpr hpast)⟩
    · rintro ⟨hc, hrest⟩ past hpast
      rcases List.prefix_cons_iff.mp hpast with rfl | ⟨later, rfl, hlater⟩
      · exact hids
      · exact (ih (hs.after c) hc).mpr hrest later hlater

lemma distinctIds_builtIn (h : builtIn = .ok s) : s.DistinctIds := by
  have hnodup : (BuiltInField.definitions.map (·.id)).Nodup := by decide +kernel
  unfold builtIn at h
  intro d hd e he hid
  exact List.inj_on_of_nodup_map hnodup ((mem_definitions_ofDefinitions h).mp hd)
    ((mem_definitions_ofDefinitions h).mp he) hid

/-- **Identifiers stay distinct as long as every new attribute brings one that is not in use**, and
no longer. -/
theorem distinctIds_iff_fresh :
    (∀ s : Schema, s.Built → s.DistinctIds → ∀ c, (s.after c).DistinctIds ↔ s.Fresh c) ∧
      ∃ s, builtIn = .ok s ∧ s.DistinctIds ∧ ∀ cs : List Change,
        (∀ past, past <+: cs → (s.afterAll past).DistinctIds) ↔ s.AllFresh cs := by
  obtain ⟨s, hs⟩ := exists_builtIn
  have hids := distinctIds_builtIn hs
  exact ⟨fun s hs hids c => distinctIds_after_iff hs.coherent hids c,
    s, hs, hids, distinctIds_afterAll_iff (rooted_builtIn hs).coherent hids⟩

/-- Two new attributes with one identifier. -/
def sampleTwin (name : String) : AttributeDefinition := .plain (.ofNat 1) name .text

theorem distinctIds_iff_fresh_sample : sampleSchema.Built ∧ sampleSchema.DistinctIds ∧
    (sampleSchema.after (.define (sampleTwin "badge"))).DistinctIds ∧
      ¬(sampleSchema.after (.define (sampleTwin "size"))).DistinctIds := by
  have hids : sampleSchema.DistinctIds := by decide +kernel
  have hiff := distinctIds_iff_fresh.1 sampleSchema built_sampleSchema hids
  refine ⟨built_sampleSchema, hids, (hiff _).mpr fun _ hnew => ?_, fun hstill => ?_⟩
  · have hold : (sampleSchema.resolve (sampleTwin "badge").name).isSome := by decide +kernel
    rw [hnew] at hold
    cases hold
  · have haccepted : (sampleSchema.define (sampleTwin "size")).toOption.isSome := by decide +kernel
    have hnew : sampleSchema.resolve (sampleTwin "size").name = none := by decide +kernel
    have hshared : ∃ e ∈ sampleSchema.definitions, e.id = (sampleTwin "size").id := by
      decide +kernel
    obtain ⟨e, he, hid⟩ := hshared
    refine (hiff _).mp hstill ?_ hnew e he hid
    rcases hdefine : sampleSchema.define (sampleTwin "size") with _ | r
    · rw [hdefine] at haccepted
      cases haccepted
    · exact ⟨r, rfl⟩

/-- Next to the built-in attributes, a twin of a name that no attribute has is defined as it is. -/
lemma Rooted.exists_define_twin (hs : s.Rooted) (hblank : Text.isBlankText name = false)
    (hkeys : ∀ f ∈ BuiltInField.all, f.definition.key ≠ Text.lower name)
    (hnew : s.resolve name = none) :
    ∃ s', s.define (sampleTwin name) = .ok (sampleTwin name, s') := by
  obtain ⟨⟨d, s'⟩, h⟩ := (hs.exists_define_iff (d := sampleTwin name)).mpr
    ⟨rfl, hkeys, hblank, fun _ h => by cases h⟩
  have hplaced := (define_spec h).1.trans (placed_eq s _)
  have hname : (sampleTwin name).name = name := rfl
  rw [hname, hnew] at hplaced
  obtain rfl : d = sampleTwin name := hplaced
  exact ⟨s', h⟩

/-- Two new attributes can get one identifier, one after the other. -/
theorem twins_share_identifier : ∃ s s₁ s₂, builtIn = .ok s ∧
    s.define (sampleTwin "shoe") = .ok (sampleTwin "shoe", s₁) ∧
      s₁.define (sampleTwin "size") = .ok (sampleTwin "size", s₂) ∧
        s.DistinctIds ∧ s₁.DistinctIds ∧ ¬s₂.DistinctIds := by
  obtain ⟨s, hs⟩ := exists_builtIn
  have hrooted := rooted_builtIn hs
  have hids := distinctIds_builtIn hs
  have hmem : ∀ d, d ∈ s.definitions ↔ d ∈ BuiltInField.definitions := by
    unfold builtIn at hs
    exact fun d => mem_definitions_ofDefinitions hs
  have hshoe : ∀ f ∈ BuiltInField.all, f.definition.key ≠ Text.lower "shoe" := by decide +kernel
  have hsize : ∀ f ∈ BuiltInField.all, f.definition.key ≠ Text.lower "size" := by decide +kernel
  have hunknown : ∀ name, (∀ f ∈ BuiltInField.all, f.definition.key ≠ Text.lower name) →
      s.resolve name = none := by
    intro name hname
    refine Option.eq_none_iff_forall_ne_some.mpr fun d hd => ?_
    obtain ⟨hd, hkey⟩ := hrooted.coherent.resolve_eq_some_iff.mp hd
    obtain ⟨f, hf, rfl⟩ := List.mem_map.mp ((hmem d).mp hd)
    exact hname f hf hkey
  obtain ⟨s₁, h₁⟩ :=
    hrooted.exists_define_twin (by decide +kernel) hshoe (hunknown "shoe" hshoe)
  have hnew : s₁.resolve "size" = none := by
    rw [(define_spec h₁).2.2.2, if_neg (by decide +kernel)]
    exact hunknown "size" hsize
  obtain ⟨s₂, h₂⟩ := (hrooted.define h₁).exists_define_twin (by decide +kernel) hsize hnew
  have hunused : ∀ d ∈ BuiltInField.definitions, d.id ≠ (sampleTwin "shoe").id := by
    decide +kernel
  have hids₁ := (distinctIds_define_iff hrooted.coherent hids h₁).mpr fun _ e he =>
    hunused e ((hmem e).mp he)
  have hfirst := (hrooted.coherent.mem_definitions_define h₁).mpr (.inl rfl)
  exact ⟨s, s₁, s₂, hs, h₁, h₂, hids, hids₁, fun hids₂ =>
    (distinctIds_define_iff (hrooted.define h₁).coherent hids₁ h₂).mp hids₂ hnew _ hfirst rfl⟩

end Provisioning.Schema
