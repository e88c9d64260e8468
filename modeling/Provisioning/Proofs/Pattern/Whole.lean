import Provisioning.Proofs.Acceptance
import Provisioning.Proofs.Pattern.Anchored

/-!
Validation patterns and whole values.

What is compiled for an attribute is its pattern between anchors, so that a value has to match from
its first to its last character. That is what happens if the pattern is a regular expression by
itself. But the text is put between the anchors as it stands, and some texts only become regular
expressions there, such as `a)|(b`, whose parentheses close and open those of the anchors. They are
compiled without objection, and then accept texts that merely begin or end in some way
(`Schema.spliced_pattern_accepts`).
-/

namespace Provisioning

/-- The text is a regular expression by itself and matches the subject from its first to its last
character. -/
def Pattern.Describes (text subject : String) : Prop :=
  ∃ e, Pattern.Expression.ofText? text = some e ∧ e.pattern.MatchesWhole subject.toList

/-- The text is a regular expression by itself. -/
def Pattern.WellFormed (text : String) : Prop := (Pattern.Expression.ofText? text).isSome

open Pattern

namespace Schema

/-- What the pattern of an attribute says of values, and what has been compiled of it. -/
structure Constrains (s : Schema) (d : AttributeDefinition) (text : String)
    (c : CompiledPattern) : Prop where
  /-- The text is compiled between its anchors. -/
  source : c.source = anchored text
  /-- A pattern that is well-formed by itself accepts what it matches as a whole, and nothing
  else. -/
  whole : WellFormed text → ∀ subject, c.accepts subject ↔ Describes text subject
  /-- No other pattern does, unless it accepts nothing at all. -/
  wellFormed : (∀ subject, c.accepts subject ↔ Describes text subject) →
    WellFormed text ∨ ∀ subject, ¬c.accepts subject
  /-- A text is accepted only if the pattern accepts all of it. -/
  ofText : d.kind = .text → ∀ enforceReadOnly state proposed v,
    .accepted d v ∈ (s.check enforceReadOnly state proposed).findings →
      ∃ t, v = .text t ∧ c.accepts t ∧ (WellFormed text → Describes text t)
  /-- A list is accepted only if the pattern accepts all of every element. -/
  ofList : d.kind = .list → ∀ enforceReadOnly state proposed v,
    .accepted d v ∈ (s.check enforceReadOnly state proposed).findings →
      ∃ items, v = .list items ∧
        ∀ t ∈ items, c.accepts t ∧ (WellFormed text → Describes text t)

section Constrains

variable {s : Schema} {d : AttributeDefinition} {text : String} {c : CompiledPattern}

lemma accepts_iff_describes (hc : CompiledPattern.ofText? text = some c) (h : WellFormed text)
    (subject : String) : c.accepts subject ↔ Describes text subject := by
  obtain ⟨e, he⟩ := Option.isSome_iff_exists.mp h
  rw [CompiledPattern.accepts_iff hc he]
  refine ⟨fun hmatch => ⟨e, he, hmatch⟩, ?_⟩
  rintro ⟨e', he', hmatch⟩
  obtain rfl := Option.some.inj (he.symm.trans he')
  exact hmatch

/-- The pattern accepts every text of an accepted value to which it applies. -/
lemma accepts_of_accepted (hs : s.Built) (hcompiled : d.compiled? = some c)
    (hkind : d.kind.isTextLike) {enforceReadOnly : Bool} {state : RecordState}
    {proposed : SortedMap String Json} {v : AttributeValue}
    (h : .accepted d v ∈ (s.check enforceReadOnly state proposed).findings) :
    v.kind = d.kind ∧
      ∀ subjects, v.patternSubjects = some subjects → ∀ t ∈ subjects, c.accepts t := by
  obtain ⟨-, -, j, -, -, hv, hfit⟩ := hs.coherent.accepted_mem_findings.mp h
  refine ⟨(AttributeValue.encodeAs_of_fromWire hv).1, fun subjects hsubjects t ht => ?_⟩
  by_contra hnot
  exact hfit (Or.inr ⟨v, c, subjects, hv, hkind, hcompiled, hsubjects, t, ht, hnot⟩)

/-- **A pattern that is well-formed by itself constrains whole values**, and so does no other that
accepts anything. -/
theorem constrains_pattern (hs : s.Built) (hd : d ∈ s.definitions) (htext : d.pattern = some text) :
    ∃ c, s.pattern? d.key = some c ∧ s.Constrains d text c := by
  obtain ⟨entry, hentry, hdefinition⟩ := hs.coherent.mem_definitions_iff.mp hd
  have hprepared := hs.coherent.prepared _ entry hentry
  rw [hdefinition] at hprepared
  obtain ⟨p, hc⟩ := SchemaEntry.exists_compiled hprepared htext
  have hcompiled : d.compiled? = some ⟨anchored text, p⟩ := by
    unfold AttributeDefinition.compiled?
    rw [htext]
    exact hc
  have hwhole := accepts_iff_describes hc
  refine ⟨⟨anchored text, p⟩, (hs.coherent.pattern?_key hd).trans hcompiled, ?_⟩
  exact {
    source := rfl
    whole := hwhole
    wellFormed := fun hiff => by
      by_cases hwell : WellFormed text
      · exact Or.inl hwell
      · refine Or.inr fun subject haccepts => hwell ?_
        obtain ⟨e, he, -⟩ := (hiff subject).mp haccepts
        exact Option.isSome_iff_exists.mpr ⟨e, he⟩
    ofText := fun hkind enforceReadOnly state proposed v h => by
      obtain ⟨hv, haccepts⟩ := accepts_of_accepted hs hcompiled (by rw [hkind]; rfl) h
      rw [hkind] at hv
      cases v with
      | text t =>
        have ht := haccepts [t] rfl t (List.mem_singleton.mpr rfl)
        exact ⟨t, rfl, ht, fun hwell => (hwhole hwell t).mp ht⟩
      | _ => cases hv
    ofList := fun hkind enforceReadOnly state proposed v h => by
      obtain ⟨hv, haccepts⟩ := accepts_of_accepted hs hcompiled (by rw [hkind]; rfl) h
      rw [hkind] at hv
      cases v with
      | list items =>
        exact ⟨items, rfl, fun t ht =>
          ⟨haccepts items rfl t ht, fun hwell => (hwhole hwell t).mp (haccepts items rfl t ht)⟩⟩
      | _ => cases hv }

end Constrains

theorem constrains_pattern_sample : sampleSchema.Built ∧
    (∃ d ∈ sampleSchema.definitions, d.pattern = some "a|b" ∧ d.key = "title" ∧
      ∃ c, sampleSchema.pattern? d.key = some c ∧ sampleSchema.Constrains d "a|b" c) ∧
    (sampleSchema.pattern? "title").map (fun c => (c.accepts "a", c.accepts "ab")) =
      some (true, false) := by
  have htitle : ∃ d ∈ sampleSchema.definitions, d.pattern = some "a|b" ∧ d.key = "title" := by
    decide +kernel
  obtain ⟨d, hd, htext, hkey⟩ := htitle
  exact ⟨built_sampleSchema, ⟨d, hd, htext, hkey, constrains_pattern built_sampleSchema hd htext⟩,
    by decide +kernel⟩

/-- An attribute with a pattern that is only a regular expression between its anchors. -/
def sampleSpliced : AttributeDefinition :=
  { AttributeDefinition.plain (.ofNat 1) "title" .text with pattern := some "a)|(b" }

/-- A text that is no pattern by itself is compiled, and accepts what only begins with a part of
it. -/
theorem spliced_pattern_accepts : ∃ s c, ofDefinitions [sampleSpliced] = .ok s ∧
    s.pattern? "title" = some c ∧ c.accepts "ab" ∧ ¬WellFormed "a)|(b" ∧
      ¬∀ subject, c.accepts subject ↔ Describes "a)|(b" subject := by
  have hill : ¬WellFormed "a)|(b" := by
    unfold WellFormed
    decide +kernel
  have haccepted : ((ofDefinitions [sampleSpliced]).toOption.bind fun s =>
      s.pattern? "title").map (·.accepts "ab") = some true := by decide +kernel
  rcases hs : ofDefinitions [sampleSpliced] with _ | s <;> rw [hs] at haccepted
  · cases haccepted
  · obtain ⟨c, hc, hab⟩ := Option.map_eq_some_iff.mp haccepted
    refine ⟨s, c, rfl, hc, hab, hill, fun hiff => hill ?_⟩
    obtain ⟨e, he, -⟩ := (hiff "ab").mp hab
    exact Option.isSome_iff_exists.mpr ⟨e, he⟩

end Schema

end Provisioning
