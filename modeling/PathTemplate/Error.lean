-- The ways in which a template or its values can be wrong, and what the
-- program says about each.

namespace PathTemplate

inductive Error where
  /-- A colon at this byte of the template has no name after it. -/
  | invalidDeclaration (position : Nat)
  /-- A placeholder of the template has no value, or an absent one. -/
  | missingParam (name : String)
  /-- A value is given for a name that the template does not hold. -/
  | unknownParam (name : String)
  deriving Repr, DecidableEq

inductive ErrorCode where
  | invalidDeclaration
  | missingParam
  | unknownParam
  deriving Repr, DecidableEq

/-- The stable word for a kind of error, which scripts may look for. -/
def ErrorCode.text : ErrorCode → String
  | .invalidDeclaration => "INVALID_PARAM_DECLARATION"
  | .missingParam => "MISSING_PARAM"
  | .unknownParam => "UNKNOWN_PARAM"

namespace Error

def code : Error → ErrorCode
  | .invalidDeclaration _ => .invalidDeclaration
  | .missingParam _ => .missingParam
  | .unknownParam _ => .unknownParam

/-- The sentence that tells a person about the error. A name stands in it as
it is, without any escape. -/
def message : Error → String
  | .invalidDeclaration position =>
    "invalid param declaration at position " ++ Nat.repr position
      ++ ": param names must match [A-Za-z0-9_]+"
  | .missingParam name => "missing param \"" ++ name ++ "\""
  | .unknownParam name =>
    "unknown param \"" ++ name ++ "\": only params declared in the template are allowed"

end Error

end PathTemplate
