-- Floating point words: a sign bit and the code of a magnitude.
import PathTemplate.Binary.Format

namespace PathTemplate.Binary

-- Powers are those of natural numbers, whatever else is imported.
attribute [local instance (high)] instPowNat

structure Binary64 where
  bits : UInt64
  deriving Repr, DecidableEq

structure Binary32 where
  bits : UInt32
  deriving Repr, DecidableEq

/-! ## Words of 64 bits -/

namespace Binary64

def ofCode (negative : Bool) (code : Nat) : Binary64 :=
  ⟨UInt64.ofNat (if negative then Format.double.signWeight + code else code)⟩

def negative (x : Binary64) : Bool := Format.double.signWeight ≤ x.bits.toNat

def code (x : Binary64) : Nat := x.bits.toNat % Format.double.signWeight

def isNaN (x : Binary64) : Bool := Format.double.infinity < x.code

def isInfinite (x : Binary64) : Bool := x.code == Format.double.infinity

def isFinite (x : Binary64) : Bool := x.code < Format.double.infinity

/-- Equality of numbers. What is not a number equals nothing, itself included,
and the two zeros are equal. -/
def equals (x y : Binary64) : Bool :=
  !x.isNaN && !y.isNaN && (x.bits == y.bits || (x.code == 0 && y.code == 0))

end Binary64

/-! ## Words of 32 bits -/

namespace Binary32

def negative (x : Binary32) : Bool := Format.single.signWeight ≤ x.bits.toNat

def code (x : Binary32) : Nat := x.bits.toNat % Format.single.signWeight

def isNaN (x : Binary32) : Bool := Format.single.infinity < x.code

def isInfinite (x : Binary32) : Bool := x.code == Format.single.infinity

def isFinite (x : Binary32) : Bool := x.code < Format.single.infinity

def equals (x y : Binary32) : Bool :=
  !x.isNaN && !y.isNaN && (x.bits == y.bits || (x.code == 0 && y.code == 0))

/-- The long code of the same number. A fraction moves up by the bits that the long
field has more, and an exponent by the 896 that the long bias has more. A magnitude
below the short exponents has a leading one that the long exponents reach, so that
one moves into the exponent. -/
def wideCode (code : Nat) : Nat :=
  let exponent := Format.single.exponentField code
  let fraction := Format.single.fractionField code
  let step : Nat := 2 ^ Format.double.fractionBits
  let stretch : Nat := 2 ^ (Format.double.fractionBits - Format.single.fractionBits)
  if Format.single.infinity ≤ code then Format.double.infinity + fraction * stretch
  else if 0 < exponent then (exponent + 896) * step + fraction * stretch
  else if fraction = 0 then 0
  else
    let top := Nat.log2 fraction
    (top + 874) * step + (fraction - 2 ^ top) * 2 ^ (Format.double.fractionBits - top)

def widen (x : Binary32) : Binary64 := .ofCode x.negative (wideCode x.code)

end Binary32

end PathTemplate.Binary
