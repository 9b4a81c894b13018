-- The decimal that stands for a floating point magnitude. It is the one with
-- the fewest digits that rounds to the magnitude, and among those the one
-- nearest to it.
--
-- The search goes over grids, from the coarse ones to the fine ones. A grid
-- holds the multiples of a power of ten. If any number of a grid rounds to the
-- magnitude, so does one of the two that stand beside the magnitude, because
-- the numbers that round to it are an interval around it. So only those two
-- are tried.
import PathTemplate.Binary.Format
import PathTemplate.Decimal.Positional

namespace PathTemplate.Decimal

open Binary (Format)

-- Powers are those of natural numbers, whatever else is imported.
attribute [local instance (high)] instPowNat

/-- The magnitude of a code, in units of ten to the power of minus the unit
exponent. A half is five tenths, so this is a whole number. -/
def decimalUnits (f : Format) (code : Nat) : Nat := f.units code * 5 ^ f.unitExponent

/-- The multiple of `10 ^ step` that rounds to the code, nearest to it, if there
is one. An exact tie goes to the greater one. -/
def onGrid? (f : Format) (code step : Nat) : Option Nat :=
  let value := decimalUnits f code
  let grid := 10 ^ step
  let below := value / grid
  let above := below + 1
  let fits (n : Nat) : Bool := f.RoundsTo code (n * grid) (10 ^ f.unitExponent)
  if fits below && fits above then
    some (if above * grid - value ≤ value - below * grid then above else below)
  else if fits below then some below
  else if fits above then some above
  else none

/-- The search over the grids from `10 ^ step` down to the units, where the
magnitude itself is found. -/
def search (f : Format) (code : Nat) : Nat → Decimal
  | 0 => ⟨decimalUnits f code, -(f.unitExponent : Int)⟩
  | step + 1 =>
    match onGrid? f code (step + 1) with
    | some n => ⟨n, (step + 1 : Int) - f.unitExponent⟩
    | none => search f code step

/-- The shortest decimal that rounds to a finite code. The first grid is the one
of the power of ten above the magnitude. -/
def shortest (f : Format) (code : Nat) : Decimal :=
  if code = 0 then ⟨0, 0⟩ else search f code (digits (decimalUnits f code)).length

end PathTemplate.Decimal
