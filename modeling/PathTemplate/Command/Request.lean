-- What a command line asks for. The words are read from left to right, and the
-- first error, or the first request for help or the version, ends the reading.
-- Bindings are checked when the next flag comes, and at the end.
import PathTemplate.Command.Binding
import PathTemplate.Command.Word
import PathTemplate.Text.Terminal

namespace PathTemplate.Command

/-! ## Errors of use -/

inductive UsageError where
  | noTemplate
  | unexpectedArgument (text : String)
  | unexpectedValue (flag : Flag) (value : String)
  | repeated (flag : Flag)
  | invalidBinding (error : BindingError)
  /-- Names are to be listed, but there are bindings. What came first is named
  first. -/
  | listWithBindings (bindingsFirst : Bool)
  deriving Repr, DecidableEq

namespace UsageError

def bindingsName : String := "[BINDINGS]..."

/-- A part of a sentence that stands between quotes and stands out. -/
def cited (text : String) : String := "'" ++ Text.highlighted text ++ "'"

def message : UsageError → String
  | .noTemplate => "the following required arguments were not provided:"
  | .unexpectedArgument text => "unexpected argument " ++ cited text ++ " found"
  | .unexpectedValue flag value =>
    "unexpected value " ++ cited value ++ " for " ++ cited flag.text
      ++ " found; no more were expected"
  | .repeated flag => "the argument " ++ cited flag.text ++ " cannot be used multiple times"
  | .invalidBinding e =>
    "invalid value " ++ cited e.argument ++ " for " ++ cited bindingsName ++ ": " ++ e.message
  | .listWithBindings bindingsFirst =>
    let (first, second) :=
      if bindingsFirst then (bindingsName, Flag.list.text) else (Flag.list.text, bindingsName)
    "the argument " ++ cited first ++ " cannot be used with " ++ cited second

end UsageError

/-! ## Requests -/

inductive Task where
  | names
  | build (bindings : List Binding)
  deriving Repr, DecidableEq

inductive Request where
  | help
  | version
  | run (template : String) (task : Task) (verbose : Bool)
  deriving Repr, DecidableEq

/-! ## Reading -/

/-- What the words up to some place have said. -/
structure Reading where
  template : Option String
  bindings : List Binding
  /-- The arguments behind them, to be checked as bindings. -/
  pending : List String
  /-- Whether there was a binding before the flag to list names, if it was there. -/
  list : Option Bool
  verbose : Bool

namespace Reading

def start : Reading := ⟨none, [], [], none, false⟩

/-- The first positional argument is the template, and the others are bindings. -/
def positional (r : Reading) (text : String) : Reading :=
  match r.template with
  | none => { r with template := some text }
  | some _ => { r with pending := r.pending ++ [text] }

/-- Checks the bindings that were not checked yet, from the first one on. -/
def settle (r : Reading) : Except UsageError Reading :=
  match r.pending.mapM Binding.parse with
  | .ok bindings => .ok { r with bindings := r.bindings ++ bindings, pending := [] }
  | .error e => .error (.invalidBinding e)

def finish (r : Reading) : Except UsageError Request :=
  match r.settle with
  | .error e => .error e
  | .ok r =>
    match r.list, r.bindings, r.template with
    | some bindingsFirst, _ :: _, _ => .error (.listWithBindings bindingsFirst)
    | _, _, none => .error .noTemplate
    | some _, [], some template => .ok (.run template .names r.verbose)
    | none, bindings, some template => .ok (.run template (.build bindings) r.verbose)

def read (r : Reading) : List Word → Except UsageError Request
  | [] => r.finish
  | .positional text :: rest => (r.positional text).read rest
  | .unknown text :: _ => .error (.unexpectedArgument text)
  | .valued flag value :: _ => .error (.unexpectedValue flag value)
  | .flag flag :: rest =>
    match r.settle with
    | .error e => .error e
    | .ok r =>
      match flag with
      | .help => .ok .help
      | .version => .ok .version
      | .list =>
        if r.list.isSome then .error (.repeated .list)
        else { r with list := some !r.bindings.isEmpty }.read rest
      | .verbose =>
        if r.verbose then .error (.repeated .verbose)
        else { r with verbose := true }.read rest

end Reading

def Request.ofArguments (arguments : List String) : Except UsageError Request :=
  Reading.start.read (Word.ofArguments arguments)

end PathTemplate.Command
