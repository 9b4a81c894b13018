-- What a caller may supply as a value: text, numbers of any width, a truth
-- value, or nothing. Each becomes a value without loss.
import PathTemplate.Value

namespace PathTemplate

open Binary (Binary32 Binary64)

inductive Supplied where
  | text (s : String)
  | char (c : Char)
  | bool (b : Bool)
  | int8 (n : Int8)
  | int16 (n : Int16)
  | int32 (n : Int32)
  | int64 (n : Int64)
  | uint8 (n : UInt8)
  | uint16 (n : UInt16)
  | uint32 (n : UInt32)
  | uint64 (n : UInt64)
  | single (x : Binary32)
  | double (x : Binary64)
  | nothing
  | present (inner : Supplied)
  deriving Repr, DecidableEq

namespace Supplied

/-- The value of what is supplied. Integers and floating point numbers are
widened to 64 bits. -/
def toValue : Supplied → Value
  | .text s => .string s
  | .char c => .string (String.singleton c)
  | .bool b => .bool b
  | .int8 n => .int n.toInt64
  | .int16 n => .int n.toInt64
  | .int32 n => .int n.toInt64
  | .int64 n => .int n
  | .uint8 n => .uint n.toUInt64
  | .uint16 n => .uint n.toUInt64
  | .uint32 n => .uint n.toUInt64
  | .uint64 n => .uint n
  | .single x => .float x.widen
  | .double x => .float x
  | .nothing => .absent
  | .present inner => inner.toValue

end Supplied

end PathTemplate
