-- The words of a command line. An argument is a flag, several flags in one, or
-- an argument that its place gives a meaning. Behind a double dash, every
-- argument is of the last kind.

namespace PathTemplate.Command

inductive Flag where
  | list
  | verbose
  | help
  | version
  deriving Repr, DecidableEq

namespace Flag

def name : Flag → String
  | .list => "list"
  | .verbose => "verbose"
  | .help => "help"
  | .version => "version"

def text (f : Flag) : String := "--" ++ f.name

def ofName? (name : String) : Option Flag :=
  [list, verbose, help, version].find? fun f => f.name == name

/-- The letter behind one dash. To list the names has no letter. -/
def ofLetter? : Char → Option Flag
  | 'v' => some .verbose
  | 'h' => some .help
  | 'V' => some .version
  | _ => none

end Flag

inductive Word where
  | flag (f : Flag)
  /-- A flag with an equals sign and a value, though no flag takes one. -/
  | valued (f : Flag) (value : String)
  | unknown (text : String)
  | positional (text : String)
  deriving Repr, DecidableEq

namespace Word

/-- The word behind two dashes. A name runs up to the first equals sign. -/
def ofLong (cs : List Char) : Word :=
  let name := String.ofList (cs.takeWhile (· != '='))
  match Flag.ofName? name, cs.dropWhile (· != '=') with
  | some f, [] => .flag f
  | some f, _ :: value => .valued f (String.ofList value)
  | none, _ => .unknown ("--" ++ name)

def ofLetter (c : Char) : Word :=
  match Flag.ofLetter? c with
  | some f => .flag f
  | none => .unknown (String.ofList ['-', c])

/-- The words of an argument that is not a double dash. A single dash is no flag. -/
def ofArgument (argument : String) : List Word :=
  match argument.toList with
  | '-' :: '-' :: name => [ofLong name]
  | '-' :: c :: cs => (c :: cs).map ofLetter
  | _ => [.positional argument]

def ofArguments : List String → List Word
  | [] => []
  | argument :: rest =>
    if argument = "--" then rest.map .positional else ofArgument argument ++ ofArguments rest

end Word

end PathTemplate.Command
