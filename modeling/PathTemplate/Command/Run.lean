-- A whole run of the command, from its arguments to all that it writes.
import PathTemplate.Command.Request
import PathTemplate.Log.Filter
import PathTemplate.Log.Observed
import PathTemplate.Log.Transcript

namespace PathTemplate.Command

/-! ## Outcomes -/

inductive Status where
  | success
  /-- The template or its params are wrong. -/
  | failure
  /-- The command line is wrong. -/
  | misuse
  deriving Repr, DecidableEq

def Status.code : Status → Nat
  | .success => 0
  | .failure => 1
  | .misuse => 2

structure Outcome where
  status : Status
  output : String
  /-- What goes to the standard error, behind the log. Of the report about an error of use only
  the first line is kept here. -/
  errors : String
  /-- The entries of the log, each of which is written with a line feed behind it. -/
  log : List String
  deriving Repr, DecidableEq

/-- The standard error as a reader of lines takes it apart. -/
def Outcome.transcript (o : Outcome) : Log.Transcript := .ofEntries o.errors o.log

/-! ## Fixed texts -/

def helpText : String := String.intercalate "\n" [
  "Build a path from a :param template",
  "",
  "Usage: snowurl [OPTIONS] <TEMPLATE> [BINDINGS]...",
  "",
  "Arguments:",
  "  <TEMPLATE>     Template containing `:name` placeholders",
  "  [BINDINGS]...  Placeholder values as KEY=VALUE",
  "",
  "Options:",
  "      --list     Print the template's parameter names instead of building",
  "  -v, --verbose  Enable debug logging",
  "  -h, --help     Print help",
  "  -V, --version  Print version",
  ""]

def versionText : String := "snowurl 0.1.0\n"

def helpHint : String :=
  "\n\nFor more information, try '" ++ Text.highlighted "--help" ++ "'.\n"

/-- The first line of the report about an error of use, without control sequences. The report
goes on with tips, how the command is used, and the hint, which are left out. A sequence that an
argument began and did not end can run on into the hint. -/
def UsageError.line (e : UsageError) : String :=
  let shown := Text.plain (Text.highlighted "error:" ++ " " ++ e.message ++ helpHint)
  String.ofList (shown.toList.takeWhile (· != '\n') ++ ['\n'])

def repeatedKeyLine (key : String) : String := "error: param `" ++ key ++ "` given more than once\n"

def errorLine (e : Error) : String := "error[" ++ e.code.text ++ "]: " ++ e.message ++ "\n"

/-! ## Runs -/

/-- The outcome of a call of the library. `output` is what is written if it ends
well. -/
def Outcome.ofObserved {α : Type} (filter : Log.Filter) (output : α → String)
    (seen : Log.Observed α) : Outcome :=
  let log := filter.lines seen.events
  match seen.result with
  | .ok a => ⟨.success, output a, "", log⟩
  | .error e => ⟨.failure, "", errorLine e, log⟩

def namesOutput (t : Template) : String := String.join (t.names.map (· ++ "\n"))

def pathOutput (path : String) : String := path ++ "\n"

/-- Carries out a task. No key may be bound twice, and that is seen before the
template is read. -/
def Task.run (filter : Log.Filter) (template : String) : Task → Outcome
  | .names => .ofObserved filter namesOutput (Log.observedParse template)
  | .build bindings =>
    match Binding.collect bindings with
    | .ok p => .ofObserved filter pathOutput (Log.observedBuild template p)
    | .error key => ⟨.misuse, "", repeatedKeyLine key, []⟩

/-- The filter for a log: the one that is asked for, if it can be read, and else the
standard one. -/
def chooseFilter (asked : Option String) (verbose : Bool) : Log.Filter :=
  (asked.bind Log.Filter.ofText?).getD (.standard verbose)

/-- A run of the command. `asked` is the filter that the environment asks for. -/
def run (asked : Option String) (arguments : List String) : Outcome :=
  match Request.ofArguments arguments with
  | .error e => ⟨.misuse, "", e.line, []⟩
  | .ok .help => ⟨.success, helpText, "", []⟩
  | .ok .version => ⟨.success, versionText, "", []⟩
  | .ok (.run template task verbose) => task.run (chooseFilter asked verbose) template

end PathTemplate.Command
