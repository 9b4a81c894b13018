-- Reading a template and building a path, together with the events that they
-- report on the way.
import PathTemplate.Build
import PathTemplate.Log.Event

namespace PathTemplate.Log

/-- A result and the events on the way to it, in order. -/
structure Observed (α : Type) where
  result : Except Error α
  events : List Event

/-- Reads a template. Only a template without an error is reported. -/
def observedParse (source : String) : Observed Template :=
  match Template.parse source with
  | .ok t => ⟨.ok t, [.parsed source t.tokens.length]⟩
  | .error e => ⟨.error e, []⟩

/-- Builds the path of a template. The result is always reported. -/
def observedFill (t : Template) (p : Params) : Observed String :=
  let result := t.build p
  ⟨result, [.ofBuild t.source result]⟩

def observedBuild (source : String) (p : Params) : Observed String :=
  let read := observedParse source
  match read.result with
  | .ok t =>
    let filled := observedFill t p
    ⟨filled.result, read.events ++ filled.events⟩
  | .error e => ⟨.error e, read.events⟩

/-! ## Results and events -/

theorem result_observedParse (s : String) : (observedParse s).result = Template.parse s := by
  unfold observedParse
  cases Template.parse s <;> rfl

theorem result_observedBuild (s : String) (p : Params) :
    (observedBuild s p).result = build s p := by
  unfold observedBuild observedParse build
  cases Template.parse s <;> rfl

theorem events_observedParse_of_ok {s : String} {t : Template} (h : Template.parse s = .ok t) :
    (observedParse s).events = [.parsed s t.tokens.length] := by
  unfold observedParse
  rw [h]

theorem events_observedParse_of_error {s : String} {e : Error} (h : Template.parse s = .error e) :
    (observedParse s).events = [] := by
  unfold observedParse
  rw [h]

theorem events_observedBuild_of_error {s : String} {e : Error} (h : Template.parse s = .error e)
    (p : Params) : (observedBuild s p).events = [] := by
  unfold observedBuild observedParse
  rw [h]

end PathTemplate.Log
