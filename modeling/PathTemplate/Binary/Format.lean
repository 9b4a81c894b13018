-- Binary floating point, for any width. A magnitude is written as a code: an
-- exponent field and, below it, a fraction field. Codes are in the order of
-- their magnitudes, so the neighbours of a code are the codes beside it.

namespace PathTemplate.Binary

-- Powers are those of natural numbers, whatever else is imported.
attribute [local instance (high)] instPowNat

/-- The widths of the two fields of a code. -/
structure Format where
  fractionBits : Nat
  exponentBits : Nat
  deriving Repr, DecidableEq

namespace Format

def single : Format := ⟨23, 8⟩

def double : Format := ⟨52, 11⟩

/-! ## Codes -/

def exponentField (f : Format) (code : Nat) : Nat := code / 2 ^ f.fractionBits

def fractionField (f : Format) (code : Nat) : Nat := code % 2 ^ f.fractionBits

/-- The code of infinity: all ones in the exponent field and zeros below. The
codes of finite magnitudes come before it, and what comes after it is not a
number. -/
def infinity (f : Format) : Nat := (2 ^ f.exponentBits - 1) * 2 ^ f.fractionBits

/-- The weight of the sign bit of a word, which stands above the code. -/
def signWeight (f : Format) : Nat := 2 ^ (f.exponentBits + f.fractionBits)

/-! ## Magnitudes -/

/-- Magnitudes are multiples of the least positive one, which is two to the
power of minus this. -/
def unitExponent (f : Format) : Nat := 2 ^ (f.exponentBits - 1) - 2 + f.fractionBits

/-- The magnitude of a code, in units of the least positive one. With a zero
in the exponent field that is the fraction itself. Else a one stands before
the fraction, and each step of the exponent doubles.

The code of infinity gets the magnitude that would come next, so that the
largest finite code has a neighbour on each side. -/
def units (f : Format) (code : Nat) : Nat :=
  let exponent := f.exponentField code
  let fraction := f.fractionField code
  if exponent = 0 then fraction else (2 ^ f.fractionBits + fraction) * 2 ^ (exponent - 1)

/-! ## Rounding -/

/-- The quotient `num / den` rounds to a code when it lies between the middles
to the two neighbours of the code. A middle itself goes to the even one of
its two neighbours. All sides are multiplied by `2 * den` units, which clears
the fractions. -/
def RoundsTo (f : Format) (code num den : Nat) : Prop :=
  let low := (f.units (code - 1) + f.units code) * den
  let high := (f.units code + f.units (code + 1)) * den
  let value := 2 * num * 2 ^ f.unitExponent
  if code % 2 = 0 then low ≤ value ∧ value ≤ high else low < value ∧ value < high

instance (f : Format) (code num den : Nat) : Decidable (f.RoundsTo code num den) := by
  unfold RoundsTo
  infer_instance

end Format

/-- The whole number nearest to `num / den`. A half goes to the even one. -/
def roundHalfEven (num den : Nat) : Nat :=
  let whole := num / den
  let twice := 2 * (num % den)
  if twice < den then whole
  else if den < twice then whole + 1
  else whole + whole % 2

/-- The code of the magnitude nearest to `num / den`.

The exponent is the least at which the quotient has no more digits than the
fraction field and the one before it. What is rounded there counts from the
code where that exponent starts, so a carry leads to the next exponent. -/
def Format.nearest (f : Format) (num den : Nat) : Nat :=
  let scaled := num * 2 ^ f.unitExponent
  let exponent := Nat.log2 (scaled / den) - f.fractionBits
  let code := exponent * 2 ^ f.fractionBits + roundHalfEven scaled (den * 2 ^ exponent)
  min code f.infinity

end PathTemplate.Binary
