-- The values that a placeholder can get, and the text that stands for each.
import PathTemplate.Binary.Word
import PathTemplate.Decimal.Shortest

namespace PathTemplate

namespace Binary.Binary64

/-- The text of a floating point number: the shortest decimal that rounds to it,
never with an exponent. The sign stands in front of a zero, too. What is not
a number has no sign. -/
def text (x : Binary64) : String :=
  let sign := if x.negative then "-" else ""
  if x.isNaN then "NaN"
  else if x.isInfinite then sign ++ "inf"
  else sign ++ String.ofList (Decimal.shortest .double x.code).positional

end Binary.Binary64

open Binary (Binary64)

inductive Value where
  | string (s : String)
  | int (n : Int64)
  | uint (n : UInt64)
  | float (x : Binary64)
  | bool (b : Bool)
  /-- No value. A placeholder with an absent value counts as missing. -/
  | absent
  deriving Repr, DecidableEq

namespace Value

def isAbsent : Value → Bool
  | .absent => true
  | _ => false

theorem isAbsent_iff {v : Value} : v.isAbsent = true ↔ v = .absent := by
  cases v <;> simp [isAbsent]

def intText (n : Int) : String :=
  if n < 0 then "-" ++ Nat.repr n.natAbs else Nat.repr n.natAbs

def text : Value → String
  | .string s => s
  | .int n => intText n.toInt
  | .uint n => Nat.repr n.toNat
  | .float x => x.text
  | .bool b => if b then "true" else "false"
  | .absent => ""

/-- Equality of values. Values of two kinds are never equal, and floating point
numbers are equal as numbers are. -/
def equals : Value → Value → Bool
  | .string a, .string b => a == b
  | .int a, .int b => a == b
  | .uint a, .uint b => a == b
  | .float a, .float b => a.equals b
  | .bool a, .bool b => a == b
  | .absent, .absent => true
  | _, _ => false

end Value

end PathTemplate
