-- Decimals, and their text with a point and without an exponent. Which texts are numbers
-- of any form is told at the end: there may be an exponent behind the digits, and there are
-- words for what is not finite.

namespace PathTemplate

-- Powers are those of natural numbers, whatever else is imported.
attribute [local instance (high)] instPowNat

/-- The number `coefficient * 10 ^ exponent`. -/
structure Decimal where
  coefficient : Nat
  exponent : Int
  deriving Repr, DecidableEq

namespace Decimal

/-- A decimal is the quotient of its numerator and its denominator. One of the
two holds the power of ten, as the sign of the exponent says. -/
def numerator (d : Decimal) : Nat := d.coefficient * 10 ^ d.exponent.toNat

def denominator (d : Decimal) : Nat := 10 ^ (-d.exponent).toNat

/-! ## Digits -/

def digits (n : Nat) : List Char := Nat.toDigits 10 n

/-- The digits of a number with zeros in front up to the given count. -/
def paddedDigits (count n : Nat) : List Char :=
  List.replicate (count - (digits n).length) '0' ++ digits n

def ofDigits (cs : List Char) : Nat := Nat.ofDigitChars 10 cs 0

/-! ## Text -/

def places (d : Decimal) : Nat := (-d.exponent).toNat

/-- The text of a decimal: its whole part, and a point and the rest if there
are places behind the point. -/
def positional (d : Decimal) : List Char :=
  let whole := digits (d.numerator / d.denominator)
  if d.places = 0 then whole
  else whole ++ '.' :: paddedDigits d.places (d.numerator % d.denominator)

/-- Reads a text of digits with at most one point among them. There is a digit
in front of the point and one behind it. -/
def ofPositional? (cs : List Char) : Option Decimal :=
  let whole := cs.takeWhile Char.isDigit
  if whole = [] then none
  else match cs.dropWhile Char.isDigit with
    | [] => some ⟨ofDigits whole, 0⟩
    | '.' :: rest =>
      if rest ≠ [] ∧ rest.all Char.isDigit then
        some ⟨ofDigits (whole ++ rest), -(rest.length : Int)⟩
      else none
    | _ => none

/-! ## Numbers in general -/

def unsigned : List Char → List Char
  | '+' :: cs => cs
  | '-' :: cs => cs
  | cs => cs

/-- Whether a text is empty or an exponent. -/
def isExponent : List Char → Bool
  | [] => true
  | c :: cs => (c == 'e' || c == 'E') && unsigned cs != [] && (unsigned cs).all Char.isDigit

/-- Whether a text is a number without a sign. There is a digit in front of the point or
one behind it. -/
def isUnsigned (cs : List Char) : Bool :=
  let whole := cs.takeWhile Char.isDigit
  match cs.dropWhile Char.isDigit with
  | '.' :: rest =>
    (whole != [] || (rest.takeWhile Char.isDigit) != []) && isExponent (rest.dropWhile Char.isDigit)
  | rest => whole != [] && isExponent rest

def words : List String := ["inf", "infinity", "nan"]

/-- Whether a text is a number. Words may be in capital or small letters. -/
def isNumeral (cs : List Char) : Bool :=
  words.contains (String.ofList ((unsigned cs).map Char.toLower)) || isUnsigned (unsigned cs)

end Decimal

end PathTemplate
