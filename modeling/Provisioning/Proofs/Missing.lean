import Provisioning.Proofs.Acceptance

/-!
Which mandatory attributes are reported as missing.

A new record lacks a mandatory attribute if no entry gives the attribute a value (`Unsupplied`).
Whether one does is noted for every entry anew, also for those that are refused because the
attribute was given before. So the note says what the last entry says, and an attribute that was
given a value is reported as missing if null is proposed under the greatest of its names
(`Withdrawn`). `Schema.reportsMissing` says what is reported, and that it is what is missing exactly
if no mandatory attribute is withdrawn. A validation in which one is withdrawn is refused in any
case, as the attribute is given twice (`Schema.invalid_of_withdrawn`).
-/

namespace Provisioning

section Entries

variable (proposed : SortedMap String Json) (d : AttributeDefinition)

/-- No entry gives the attribute a value. -/
def Unsupplied : Prop := ∀ name j, EntryFor proposed d name j → j = .null

/-- An entry gives the attribute a value, and the last one gives it none. -/
def Withdrawn : Prop := ¬Unsupplied proposed d ∧ LastFor proposed d .null

end Entries

section Entries

variable {proposed : SortedMap String Json} {d : AttributeDefinition}

/-- An attribute can be withdrawn only if it is given twice, which is refused. -/
lemma Withdrawn.givenTwice (h : Withdrawn proposed d) : GivenTwice proposed d := by
  obtain ⟨hsupplied, name, hentry, -⟩ := h
  unfold Unsupplied at hsupplied
  push Not at hsupplied
  obtain ⟨name', j', hentry', hj'⟩ := hsupplied
  refine ⟨name, .null, name', j', hentry, hentry', ?_⟩
  rintro rfl
  exact hj' (Option.some.inj (hentry'.1.symm.trans hentry.1))

/-- The last entry gives no value if no entry does, or if the attribute is withdrawn. -/
lemma forall_lastFor_iff :
    (∀ j, LastFor proposed d j → j = .null) ↔ Unsupplied proposed d ∨ Withdrawn proposed d := by
  refine ⟨fun hlast => ?_, ?_⟩
  · by_cases hnone : Unsupplied proposed d
    · exact Or.inl hnone
    · have hproposed : Proposed proposed d := by
        unfold Unsupplied at hnone
        push Not at hnone
        obtain ⟨name, j, hentry, -⟩ := hnone
        exact ⟨name, j, hentry⟩
      obtain ⟨j, hj⟩ := exists_lastFor hproposed
      exact Or.inr ⟨hnone, hlast j hj ▸ hj⟩
  · rintro (hnone | ⟨-, hnull⟩) j hj
    · obtain ⟨name, hentry, -⟩ := hj
      exact hnone name j hentry
    · exact hj.eq hnull

end Entries

namespace Schema

/-- The names of the mandatory attributes with some property. -/
def MandatoryWith (s : Schema) (property : AttributeDefinition → Prop) (name : String) : Prop :=
  ∃ d ∈ s.definitions, d.name = name ∧ d.mandatory ∧ property d

/-- Reports of what is missing, one for each state of the record. -/
structure ReportsMissing (s : Schema) (proposed : SortedMap String Json)
    (missing : RecordState → List String) : Prop where
  /-- Nothing is missing of an existing user. -/
  existing : ∀ user, missing (.existing user) = []
  /-- For a new record the mandatory attributes are reported to which no entry gives a value, and
  those that are withdrawn. -/
  new : Lists (missing .new)
    (s.MandatoryWith fun d => Unsupplied proposed d ∨ Withdrawn proposed d)
  /-- These are the ones to which no entry gives a value, except if one is withdrawn. -/
  exact_iff : Lists (missing .new) (s.MandatoryWith (Unsupplied proposed)) ↔
    ∀ d ∈ s.definitions, d.mandatory → ¬Withdrawn proposed d

variable {s : Schema}

/-- **The mandatory attributes that are reported as missing** are those to which no entry gives a
value, provided that null is proposed for none of them under a greater name than a value. -/
theorem reportsMissing (hs : s.Built) (enforceReadOnly : Bool) (proposed : SortedMap String Json)
    (taken : SortedSet Uuid) : s.ReportsMissing proposed fun state =>
      ((s.check enforceReadOnly state proposed).finish taken).result.missingMandatory := by
  have hnew : Lists ((s.check enforceReadOnly .new proposed).finish taken).result.missingMandatory
      (s.MandatoryWith fun d => Unsupplied proposed d ∨ Withdrawn proposed d) :=
    lists_sorted fun name => by
      change name ∈ s.missing .new proposed.toList ↔ _
      rw [hs.coherent.mem_missing]
      simp only [forall_lastFor_iff, true_and]
      rfl
  refine ⟨fun _ => rfl, hnew, fun hexact d hd hmandatory hwithdrawn => ?_, fun hnone => ?_⟩
  · have hreported := (hnew.2 d.name).mpr ⟨d, hd, rfl, hmandatory, Or.inr hwithdrawn⟩
    obtain ⟨d', hd', hname, -, hunsupplied⟩ := (hexact.2 d.name).mp hreported
    obtain rfl := hs.coherent.eq_of_key_eq hd' hd (congrArg Text.lower hname)
    exact hwithdrawn.1 hunsupplied
  · refine ⟨hnew.1, fun name => (hnew.2 name).trans ?_⟩
    refine exists_congr fun d => and_congr_right fun hd => and_congr_right fun _ =>
      and_congr_right fun hmandatory => or_iff_left (hnone d hd hmandatory)

/-- An attribute that is withdrawn is reported as invalid, and nothing is accepted. -/
theorem invalid_of_withdrawn (hs : s.Built) {enforceReadOnly : Bool} {state : RecordState}
    {proposed : SortedMap String Json} {taken : SortedSet Uuid} {d : AttributeDefinition}
    (hd : d ∈ s.definitions) (h : Withdrawn proposed d) :
    d.name ∈ ((s.check enforceReadOnly state proposed).finish taken).result.invalid ∧
      ((s.check enforceReadOnly state proposed).finish taken).result.ok = false := by
  have hrepeated : .repeated d ∈ (s.check enforceReadOnly state proposed).findings :=
    hs.coherent.repeated_mem_findings.mpr ⟨hd, h.givenTwice⟩
  refine ⟨SortedSet.mem_ofList.mpr (Finding.mem_invalidNames.mpr ⟨d, rfl, Or.inl hrepeated⟩),
    Bool.eq_false_iff.mpr fun hok => ?_⟩
  exact (AttributeCheck.clean_of_ok hok).1 _ hrepeated

/-- A title is proposed under two names. -/
def sampleTitles (lesser greater : Json) : SortedMap String Json :=
  .ofList [("TITLE", lesser), ("title", greater)]

/-- With the value under the greater name nothing is missing. -/
theorem reportsMissing_sample :
    sampleSchema.ReportsMissing (sampleTitles .null (.string "a")) (fun state =>
        ((sampleSchema.check false state (sampleTitles .null (.string "a"))).finish
          .empty).result.missingMandatory) ∧
      ((sampleSchema.check false .new (sampleTitles .null (.string "a"))).finish
        .empty).result.missingMandatory = [] :=
  ⟨reportsMissing built_sampleSchema false _ _, by decide +kernel⟩

/-- With the value under the lesser name the title is reported as missing. -/
theorem supplied_reported_missing :
    ¬Lists ((sampleSchema.check false .new (sampleTitles (.string "a") .null)).finish
        .empty).result.missingMandatory
      (sampleSchema.MandatoryWith (Unsupplied (sampleTitles (.string "a") .null))) := by
  intro hlists
  have hreported : "title" ∈ ((sampleSchema.check false .new
      (sampleTitles (.string "a") .null)).finish .empty).result.missingMandatory := by
    decide +kernel
  obtain ⟨d, hd, hname, -, hunsupplied⟩ := (hlists.2 "title").mp hreported
  have hlesser : Text.lower "TITLE" = "title" := by decide +kernel
  have hgreater : Text.lower "title" = "title" := by decide +kernel
  have hkey : Text.lower "TITLE" = d.key := by
    rw [AttributeDefinition.key, hname, hlesser, hgreater]
  have hentry : EntryFor (sampleTitles (.string "a") .null) d "TITLE" (.string "a") := ⟨rfl, hkey⟩
  cases hunsupplied _ _ hentry

end Schema

end Provisioning
