-- What the library reports about its work: a template that was read, a path that
-- was built, and a path that could not be built.
import PathTemplate.Error
import PathTemplate.Text.Quoted

namespace PathTemplate.Log

/-! ## Levels -/

inductive Level where
  | error
  | warn
  | info
  | debug
  | trace
  deriving Repr, DecidableEq

namespace Level

/-- How verbose a log is that shows this level, from errors alone up to all. -/
def verbosity : Level → Nat
  | .error => 1
  | .warn => 2
  | .info => 3
  | .debug => 4
  | .trace => 5

def text : Level → String
  | .error => "ERROR"
  | .warn => "WARN"
  | .info => "INFO"
  | .debug => "DEBUG"
  | .trace => "TRACE"

end Level

/-! ## Events -/

inductive Event where
  /-- A template was read, with so many tokens. -/
  | parsed (template : String) (tokens : Nat)
  | built (template url : String)
  /-- A template was read, but the params did not fit it. -/
  | failed (template : String) (error : Error)
  deriving Repr, DecidableEq

/-- A named detail of an event. A quoted one stands between quotation marks in the
log. -/
structure Field where
  name : String
  text : String
  isQuoted : Bool
  deriving Repr, DecidableEq

namespace Event

/-- The event of a build that came to this result. -/
def ofBuild (template : String) : Except Error String → Event
  | .ok url => .built template url
  | .error e => .failed template e

def level : Event → Level
  | .parsed .. => .trace
  | .built .. => .trace
  | .failed .. => .debug

/-- The part of the library that the event comes from. -/
def target : Event → String
  | .parsed .. => "snowurl::parser"
  | .built .. => "snowurl::builder"
  | .failed .. => "snowurl::builder"

def message : Event → String
  | .parsed .. => "parsed template"
  | .built .. => "built url"
  | .failed .. => "failed to build url"

def fields : Event → List Field
  | .parsed template tokens =>
    [⟨"template", template, true⟩, ⟨"tokens", Nat.repr tokens, false⟩]
  | .built template url => [⟨"template", template, true⟩, ⟨"url", url, false⟩]
  | .failed template e =>
    [⟨"template", template, true⟩, ⟨"code", e.code.text, false⟩, ⟨"error", e.message, false⟩]

/-- Whether an event has a field of this name. The message is a field as well. -/
def hasField (e : Event) (name : String) : Bool :=
  name == "message" || e.fields.any (·.name == name)

end Event

/-! ## Lines of a log -/

def Field.line (f : Field) : String :=
  " " ++ f.name ++ "=" ++ if f.isQuoted then Text.quoted f.text else f.text

/-- An event as one line of a log, without the time. -/
def Event.line (e : Event) : String :=
  e.level.text ++ " " ++ e.target ++ ": " ++ e.message ++ String.join (e.fields.map Field.line)

end PathTemplate.Log
