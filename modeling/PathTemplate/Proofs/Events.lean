-- The events of a build. They tell how it ended: a text that is no template leaves none,
-- and any other build leaves two, one for the template and one for the result. A build
-- that fails tells its template and its error, and nothing of the values.
import Mathlib
import PathTemplate.Log.Observed
import PathTemplate.Proofs.Building

namespace PathTemplate

/-! ## Where an error comes from -/

/-- Only the reading of the template finds a colon without a name. -/
theorem Template.build_ne_invalidDeclaration (t : Template) (p : Params) (position : Nat) :
    t.build p ≠ .error (.invalidDeclaration position) := by
  intro h
  have hbuilds := t.builds_build p
  rw [h] at hbuilds
  cases hbuilds

theorem exists_build_eq_invalidDeclaration_iff {s : String} {p : Params} :
    (∃ position, build s p = .error (.invalidDeclaration position)) ↔
      ∃ e, Template.parse s = .error e := by
  cases hparse : Template.parse s with
  | ok t => simp [build_of_parse_eq_ok hparse, t.build_ne_invalidDeclaration p]
  | error e =>
    obtain ⟨i, -, rfl⟩ := Template.parse_eq_error_iff.1 hparse
    simp [build_of_parse_eq_error hparse]

namespace Log

/-! ## Events -/

theorem events_observedBuild_of_ok {s : String} {t : Template} (h : Template.parse s = .ok t)
    (p : Params) :
    (observedBuild s p).events = [.parsed s t.tokens.length, .ofBuild s (build s p)] := by
  have hsource : t.source = s := (Template.parse_eq_ok_iff.1 h).2
  unfold observedBuild observedParse observedFill
  rw [h, build_of_parse_eq_ok h, ← hsource]
  rfl

/-- A build reports a failure exactly if the params do not fit the template. -/
theorem exists_failed_mem_iff {s : String} {p : Params} :
    (∃ source error, Event.failed source error ∈ (observedBuild s p).events) ↔
      ∃ e, build s p = .error e ∧ (e.code = .missingParam ∨ e.code = .unknownParam) := by
  cases hparse : Template.parse s with
  | error e =>
    obtain ⟨i, -, rfl⟩ := Template.parse_eq_error_iff.1 hparse
    simp [events_observedBuild_of_error hparse, build_of_parse_eq_error hparse, Error.code]
  | ok t =>
    have hdeclared := t.build_ne_invalidDeclaration p
    rw [events_observedBuild_of_ok hparse, build_of_parse_eq_ok hparse]
    cases hbuild : t.build p with
    | ok path => simp [Event.ofBuild]
    | error e =>
      cases e with
      | invalidDeclaration position => exact absurd hbuild (hdeclared position)
      | missingParam name | unknownParam name => simp [Event.ofBuild, Error.code]

/-! ## The law -/

/-- What an event tells: its level, where it comes from, its message, and the names and texts
of its fields in order. -/
structure Event.Tells (e : Event) (level : Level) (target message : String)
    (fields : List (String × String)) : Prop where
  level_eq : e.level = level
  target_eq : e.target = target
  message_eq : e.message = message
  fields_eq : e.fields.map (fun f => (f.name, f.text)) = fields

/-- A build leaves no event exactly if its text is no template. Else it leaves two: the first one
tells the template with the number of its tokens, and the second one the path, or the code and
the message of the error. So two builds that fail with one error leave the same events, whatever
values they were given. -/
theorem a_build_is_reported_as_it_ends (s : String) (p : Params) :
    (observedBuild s p).result = build s p ∧
    ((observedBuild s p).events = [] ↔
      ∃ position, build s p = .error (.invalidDeclaration position)) ∧
    ((∀ position, build s p ≠ .error (.invalidDeclaration position)) →
      ∃ t first second, Template.parse s = .ok t ∧
        (observedBuild s p).events = [first, second] ∧
        first.Tells .trace "snowurl::parser" "parsed template"
          [("template", s), ("tokens", Nat.repr t.tokens.length)] ∧
        (∀ path, build s p = .ok path →
          second.Tells .trace "snowurl::builder" "built url" [("template", s), ("url", path)]) ∧
        ∀ e, build s p = .error e →
          second.Tells .debug "snowurl::builder" "failed to build url"
            [("template", s), ("code", e.code.text), ("error", e.message)]) ∧
    ∀ q e, build s p = .error e → build s q = .error e →
      (observedBuild s p).events = (observedBuild s q).events := by
  refine ⟨result_observedBuild s p, ?_⟩
  rw [exists_build_eq_invalidDeclaration_iff, ← not_exists, exists_build_eq_invalidDeclaration_iff]
  cases hparse : Template.parse s with
  | error e =>
    simp [events_observedBuild_of_error hparse]
  | ok t =>
    simp only [events_observedBuild_of_ok hparse]
    refine ⟨by simp, fun _ => ⟨t, _, _, rfl, rfl, ⟨rfl, rfl, rfl, rfl⟩, ?_, ?_⟩, ?_⟩
    · intro path hpath
      rw [hpath]
      exact ⟨rfl, rfl, rfl, rfl⟩
    · intro e he
      rw [he]
      exact ⟨rfl, rfl, rfl, rfl⟩
    · intro q e hp hq
      rw [hp, hq]

end Log

end PathTemplate
