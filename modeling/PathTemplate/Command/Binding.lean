-- A value for a placeholder as it is given on the command line: a key, an equals
-- sign and the value.
import PathTemplate.Params

namespace PathTemplate.Command

structure Binding where
  key : String
  value : String
  deriving Repr, DecidableEq

inductive BindingError where
  | noEqualsSign (argument : String)
  | emptyKey (argument : String)
  deriving Repr, DecidableEq

namespace BindingError

def argument : BindingError → String
  | .noEqualsSign argument => argument
  | .emptyKey argument => argument

def message : BindingError → String
  | .noEqualsSign argument => "expected KEY=VALUE, got `" ++ argument ++ "`"
  | .emptyKey argument => "empty key in `" ++ argument ++ "`"

end BindingError

namespace Binding

def isKeyChar (c : Char) : Bool := c != '='

/-- Reads a binding. All that follows the first equals sign is the value. -/
def parse (argument : String) : Except BindingError Binding :=
  match argument.toList.dropWhile isKeyChar with
  | [] => .error (.noEqualsSign argument)
  | _ :: value =>
    let key := argument.toList.takeWhile isKeyChar
    if key = [] then .error (.emptyKey argument)
    else .ok ⟨String.ofList key, String.ofList value⟩

def text (b : Binding) : String := b.key ++ "=" ++ b.value

/-- Adds bindings to params. A key that is bound already is an error. -/
def collectInto (p : Params) : List Binding → Except String Params
  | [] => .ok p
  | b :: rest =>
    if p.contains b.key then .error b.key
    else collectInto (p.insert b.key (.string b.value)) rest

/-- The params of a list of bindings, or the first key that is bound again. -/
def collect (bindings : List Binding) : Except String Params := collectInto .empty bindings

end Binding

end PathTemplate.Command
