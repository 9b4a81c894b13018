-- Widening a word of 32 bits to one of 64 bits. The long word stands for the same number as
-- the short one, also below the short exponents, where a leading one has to move into the
-- long exponent. So nothing is lost: the text of the long word leads back to the short one.
import Mathlib
import PathTemplate.Proofs.Extended
import PathTemplate.Proofs.ValueTexts
import PathTemplate.Value.Supplied

namespace PathTemplate

open Binary (Binary32 Binary64 Format)
open Decimal (readSigned? shortest)

-- Powers are those of natural numbers, whatever else is imported.
attribute [local instance (high)] instPowNat

namespace Binary.Binary32

/-! ## The magnitude of the long code -/

/-- How often the least positive magnitude of 64 bits is doubled for that of 32 bits. -/
def doublings : Nat := 925

theorem unitExponent_double :
    Format.double.unitExponent = Format.single.unitExponent + doublings := by
  decide

/-- A significand in the short fraction field has a hidden one in front of it in both formats,
and the exponents are so far apart as to keep its magnitude. -/
theorem units_of_normal {exponent fraction : Nat} (hexponent : exponent ≠ 0)
    (hfraction : fraction < 2 ^ 23) :
    Format.double.units ((exponent + 896) * 2 ^ 52 + fraction * 2 ^ 29) =
      (2 ^ 23 + fraction) * 2 ^ (exponent - 1) * 2 ^ doublings := by
  have hfits : fraction * 2 ^ 29 < 2 ^ Format.double.fractionBits := by
    change fraction * 2 ^ 29 < 2 ^ 52
    omega
  have hunits := Format.double.units_of_fields (exponent + 896) hfits
  rw [if_neg (by omega)] at hunits
  obtain ⟨below, rfl⟩ := Nat.exists_eq_succ_of_ne_zero hexponent
  have hpower : 2 ^ 29 * 2 ^ (below + 1 + 896 - 1) = 2 ^ (below + 1 - 1) * 2 ^ doublings := by
    have hexponents : 29 + (below + 1 + 896 - 1) = below + 1 - 1 + doublings := by
      unfold doublings
      omega
    rw [← Nat.pow_add, hexponents, Nat.pow_add]
  calc Format.double.units ((below + 1 + 896) * 2 ^ 52 + fraction * 2 ^ 29)
      = (2 ^ 52 + fraction * 2 ^ 29) * 2 ^ (below + 1 + 896 - 1) := hunits
    _ = (2 ^ 23 + fraction) * (2 ^ 29 * 2 ^ (below + 1 + 896 - 1)) := by ring
    _ = (2 ^ 23 + fraction) * 2 ^ (below + 1 - 1) * 2 ^ doublings := by
      rw [hpower, Nat.mul_assoc]

/-- A fraction without a hidden one begins with a one of its own. That one becomes the hidden
one, and the rest of the fraction moves up to stand right behind it. -/
theorem units_of_subnormal {fraction top : Nat} (hlow : 2 ^ top ≤ fraction)
    (hhigh : fraction < 2 ^ (top + 1)) (htop : top < 23) :
    Format.double.units ((top + 874) * 2 ^ 52 + (fraction - 2 ^ top) * 2 ^ (52 - top)) =
      fraction * 2 ^ doublings := by
  have hstep : 2 ^ top * 2 ^ (52 - top) = 2 ^ 52 := by
    rw [← Nat.pow_add]
    congr 1
    omega
  have hfits : (fraction - 2 ^ top) * 2 ^ (52 - top) < 2 ^ Format.double.fractionBits := by
    change _ < 2 ^ 52
    rw [← hstep]
    apply Nat.mul_lt_mul_of_pos_right _ (Nat.two_pow_pos _)
    rw [Nat.pow_succ] at hhigh
    omega
  have hunits := Format.double.units_of_fields (top + 874) hfits
  rw [if_neg (by omega)] at hunits
  have hpower : 2 ^ (52 - top) * 2 ^ (top + 874 - 1) = 2 ^ doublings := by
    have hexponents : 52 - top + (top + 874 - 1) = doublings := by
      unfold doublings
      omega
    rw [← Nat.pow_add, hexponents]
  calc Format.double.units ((top + 874) * 2 ^ 52 + (fraction - 2 ^ top) * 2 ^ (52 - top))
      = (2 ^ 52 + (fraction - 2 ^ top) * 2 ^ (52 - top)) * 2 ^ (top + 874 - 1) := hunits
    _ = (2 ^ top + (fraction - 2 ^ top)) * 2 ^ (52 - top) * 2 ^ (top + 874 - 1) := by
      rw [← hstep, ← Nat.add_mul]
    _ = fraction * 2 ^ doublings := by
      rw [Nat.add_sub_cancel' hlow, Nat.mul_assoc, hpower]

theorem fractionField_lt (code : Nat) : Format.single.fractionField code < 2 ^ 23 :=
  Nat.mod_lt _ (Nat.two_pow_pos _)

variable {code : Nat}

theorem units_wideCode (h : code < Format.single.infinity) :
    Format.double.units (wideCode code) = Format.single.units code * 2 ^ doublings := by
  have hfraction := fractionField_lt code
  have hunits : Format.single.units code =
      if Format.single.exponentField code = 0 then Format.single.fractionField code
      else (2 ^ 23 + Format.single.fractionField code) *
        2 ^ (Format.single.exponentField code - 1) := rfl
  unfold wideCode
  rw [hunits, if_neg h.not_ge]
  by_cases hexponent : Format.single.exponentField code = 0
  · rw [if_neg (Nat.not_lt.2 hexponent.le), if_pos hexponent]
    by_cases hzero : Format.single.fractionField code = 0
    · rw [if_pos hzero, hzero, Nat.zero_mul]
      exact Format.units_zero _
    · rw [if_neg hzero]
      -- The place of the leading one is the base of the new exponent, wherever it is.
      have hbits := (Nat.log2_lt hzero).2 hfraction
      exact units_of_subnormal (Nat.log2_self_le hzero) Nat.lt_log2_self hbits
  · rw [if_pos (Nat.pos_of_ne_zero hexponent), if_neg hexponent]
    exact units_of_normal hexponent hfraction

theorem magnitude_wideCode (h : code < Format.single.infinity) :
    Format.double.magnitude (wideCode code) = Format.single.magnitude code := by
  have hpower : (2 : ℚ) ^ doublings ≠ 0 := pow_ne_zero _ two_ne_zero
  unfold Format.magnitude
  rw [units_wideCode h, unitExponent_double, pow_add, Nat.cast_mul, Nat.cast_pow, Nat.cast_ofNat]
  exact mul_div_mul_right _ _ hpower

/-! ## What the long word stands for -/

theorem wideCode_lt_infinity (h : code < Format.single.infinity) :
    wideCode code < Format.double.infinity := by
  -- The range of the long words is wider, also counted in their own units.
  have hrange : Format.single.units Format.single.infinity * 2 ^ doublings ≤
      Format.double.units Format.double.infinity := by
    decide +kernel
  rw [← Format.double.units_strictMono.lt_iff_lt, units_wideCode h]
  apply lt_of_lt_of_le _ hrange
  exact Nat.mul_lt_mul_of_pos_right (Format.single.units_strictMono h) (Nat.two_pow_pos _)

theorem wideCode_of_infinity_le (h : Format.single.infinity ≤ code) :
    wideCode code = Format.double.infinity + Format.single.fractionField code * 2 ^ 29 := if_pos h

theorem fractionField_pos (hlow : Format.single.infinity < code)
    (hhigh : code < Format.single.signWeight) : 0 < Format.single.fractionField code := by
  change 255 * 2 ^ 23 < code at hlow
  change code < 2 ^ 31 at hhigh
  change 0 < code % 2 ^ 23
  omega

theorem wideCode_lt_signWeight (code : Nat) : wideCode code < Format.double.signWeight := by
  rcases lt_or_ge code Format.single.infinity with hfinite | hlarge
  · exact (wideCode_lt_infinity hfinite).trans Binary64.infinity_lt_signWeight
  · have hfraction := fractionField_lt code
    rw [wideCode_of_infinity_le hlarge]
    change 2047 * 2 ^ 52 + _ < 2 ^ 63
    omega

theorem extended_wideCode (negative : Bool) (h : code < Format.single.signWeight) :
    Format.double.extended negative (wideCode code) = Format.single.extended negative code := by
  rcases lt_trichotomy code Format.single.infinity with hfinite | rfl | hnan
  · rw [Format.extended_of_lt _ hfinite, Format.extended_of_lt _ (wideCode_lt_infinity hfinite),
      magnitude_wideCode hfinite]
  · have hinfinity : wideCode Format.single.infinity = Format.double.infinity := by decide
    rw [hinfinity, Format.extended_infinity, Format.extended_infinity]
  · have hfraction := fractionField_pos hnan h
    rw [Format.extended_of_gt _ hnan, Format.extended_of_gt]
    rw [wideCode_of_infinity_le hnan.le]
    omega

variable (x : Binary32)

theorem negative_widen : x.widen.negative = x.negative :=
  Binary64.negative_ofCode _ (wideCode_lt_signWeight _)

theorem code_widen : x.widen.code = wideCode x.code :=
  Binary64.code_ofCode _ (wideCode_lt_signWeight _)

theorem extended_widen : x.widen.extended = x.extended := by
  unfold Binary64.extended
  rw [negative_widen, code_widen]
  exact extended_wideCode x.negative x.code_lt

theorem equals_widen (z : Binary32) : x.widen.equals z.widen = x.equals z := by
  rw [Bool.eq_iff_iff, Binary64.equals_iff_equal, equals_iff_equal, extended_widen, extended_widen]

variable {x}

theorem isFinite_widen (h : x.isFinite = true) : x.widen.isFinite = true := by
  rw [Binary64.isFinite_iff, code_widen]
  exact wideCode_lt_infinity (isFinite_iff.1 h)

/-- The long code goes back to the short one, since it stands for the same number. -/
theorem isNearest_code_widen (h : x.isFinite = true) :
    Format.single.IsNearest (Format.double.magnitude x.widen.code) x.code := by
  have hfinite := isFinite_iff.1 h
  rw [code_widen, magnitude_wideCode hfinite]
  exact (Format.inCell_magnitude .single x.code).isNearest hfinite.le

end Binary.Binary32

/-! ## The law -/

/-- A word of 32 bits becomes the float that stands for the same number, the same infinity or no
number, with the same sign, so equality stays what it was. The text of the float leads back to
the word: the number in it is rounded to 64 bits and from there to 32 bits, and takes the sign
in front. -/
theorem a_single_is_widened_exactly (x : Binary32) :
    ∃ y : Binary64, (Supplied.single x).toValue = .float y ∧ y.extended = x.extended ∧
      (∀ z : Binary32, (Value.float y).equals (Supplied.single z).toValue = x.equals z) ∧
      (x.isFinite = true → ∃ negative d wide narrow,
        readSigned? (Value.float y).text.toList = some (negative, d) ∧
        Format.double.IsNearest d.value wide ∧ Binary64.ofCode negative wide = y ∧
        Format.single.IsNearest (Format.double.magnitude wide) narrow ∧
        Binary32.ofCode negative narrow = x) := by
  refine ⟨x.widen, rfl, x.extended_widen, x.equals_widen, ?_⟩
  intro hfinite
  have hwide := Binary32.isFinite_widen hfinite
  refine ⟨x.negative, (shortest .double x.widen.code).writtenOut, x.widen.code, x.code, ?_, ?_, ?_,
    ?_, ?_⟩
  · rw [← x.negative_widen]
    exact Binary64.readSigned?_text hwide
  · exact Decimal.isNearest_shortest (Binary64.isFinite_iff.1 hwide).le
  · rw [← x.negative_widen]
    exact x.widen.ofCode_negative_code
  · exact Binary32.isNearest_code_widen hfinite
  · exact x.ofCode_negative_code

/-- The least positive word of 32 bits is far above the least one of 64 bits. -/
theorem a_single_is_widened_exactly_at_the_least :
    (Binary32.mk 1).isFinite = true ∧ ∃ negative d wide narrow,
      readSigned? "0.000000000000000000000000000000000000000000001401298464324817".toList =
        some (negative, d) ∧
      Format.double.IsNearest d.value wide ∧ Binary64.ofCode negative wide = ⟨0x36A0000000000000⟩ ∧
      Format.single.IsNearest (Format.double.magnitude wide) narrow ∧
      Binary32.ofCode negative narrow = ⟨1⟩ := by
  have hfinite : (Binary32.mk 1).isFinite = true := by decide
  have hwide : (Supplied.single ⟨1⟩).toValue = .float ⟨0x36A0000000000000⟩ := by decide +kernel
  have htext : (Value.float ⟨0x36A0000000000000⟩).text =
      "0.000000000000000000000000000000000000000000001401298464324817" := by
    decide +kernel
  obtain ⟨y, hy, -, -, hback⟩ := a_single_is_widened_exactly ⟨1⟩
  obtain rfl : y = ⟨0x36A0000000000000⟩ := Value.float.inj (hy.symm.trans hwide)
  have hreads := hback hfinite
  rw [htext] at hreads
  exact ⟨hfinite, hreads⟩

end PathTemplate
