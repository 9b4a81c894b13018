-- The magnitudes of the codes of a binary format. Each code stands for more
-- than the one before it, by a gap that never gets smaller from one code to the
-- next, so the codes are in the order of their magnitudes.
import Mathlib
import PathTemplate.Binary.Format

namespace PathTemplate.Binary.Format

-- Powers are those of natural numbers, whatever else is imported.
attribute [local instance (high)] instPowNat

/-! ## Units -/

theorem units_of_fields (f : Format) (exponent : Nat) {fraction : Nat}
    (h : fraction < 2 ^ f.fractionBits) :
    f.units (exponent * 2 ^ f.fractionBits + fraction) =
      if exponent = 0 then fraction
      else (2 ^ f.fractionBits + fraction) * 2 ^ (exponent - 1) := by
  have hexponent : f.exponentField (exponent * 2 ^ f.fractionBits + fraction) = exponent := by
    rw [exponentField, Nat.mul_comm, Nat.mul_add_div (Nat.two_pow_pos _), Nat.div_eq_of_lt h,
      Nat.add_zero]
  have hfraction : f.fractionField (exponent * 2 ^ f.fractionBits + fraction) = fraction := by
    rw [fractionField, Nat.mul_comm, Nat.mul_add_mod, Nat.mod_eq_of_lt h]
  rw [units, hexponent, hfraction]

/-- A significand shifted into its place. It may also be the one behind the last of its
exponent, which is the first of the next. -/
theorem units_of_scaled (f : Format) {exponent significand : Nat}
    (hlow : exponent = 0 ∨ 2 ^ f.fractionBits ≤ significand)
    (hhigh : significand ≤ 2 * 2 ^ f.fractionBits) :
    f.units (exponent * 2 ^ f.fractionBits + significand) = significand * 2 ^ exponent := by
  rcases Nat.lt_or_ge significand (2 ^ f.fractionBits) with hsmall | hlarge
  · obtain rfl : exponent = 0 := by omega
    rw [units_of_fields f 0 hsmall, if_pos rfl, Nat.pow_zero, Nat.mul_one]
  obtain ⟨fraction, rfl⟩ := Nat.exists_eq_add_of_le hlarge
  rcases Nat.lt_or_ge fraction (2 ^ f.fractionBits) with hfits | hcarry
  · have hcode : exponent * 2 ^ f.fractionBits + (2 ^ f.fractionBits + fraction) =
        (exponent + 1) * 2 ^ f.fractionBits + fraction := by ring
    rw [hcode, units_of_fields f _ hfits, if_neg (Nat.succ_ne_zero _), Nat.add_sub_cancel]
  · obtain rfl : fraction = 2 ^ f.fractionBits := by omega
    have hcode : exponent * 2 ^ f.fractionBits + (2 ^ f.fractionBits + 2 ^ f.fractionBits) =
        (exponent + 2) * 2 ^ f.fractionBits + 0 := by ring
    rw [hcode, units_of_fields f _ (Nat.two_pow_pos _), if_neg (Nat.succ_ne_zero _)]
    rw [show exponent + 2 - 1 = exponent + 1 by omega, Nat.pow_succ]
    ring

/-- Each code is a significand shifted into its place. -/
theorem exists_scaled (f : Format) (code : Nat) :
    ∃ significand, code = (f.exponentField code - 1) * 2 ^ f.fractionBits + significand ∧
      (f.exponentField code - 1 = 0 ∨ 2 ^ f.fractionBits ≤ significand) ∧
      significand < 2 * 2 ^ f.fractionBits := by
  have hcode : 2 ^ f.fractionBits * f.exponentField code + f.fractionField code = code :=
    Nat.div_add_mod code _
  have hfraction : f.fractionField code < 2 ^ f.fractionBits := Nat.mod_lt _ (Nat.two_pow_pos _)
  cases hexponent : f.exponentField code with
  | zero =>
    rw [hexponent] at hcode
    exact ⟨f.fractionField code, by omega, .inl rfl, by omega⟩
  | succ exponent =>
    rw [hexponent] at hcode
    refine ⟨2 ^ f.fractionBits + f.fractionField code, ?_, .inr (by omega), by omega⟩
    rw [Nat.add_sub_cancel]
    linarith

/-- What the next code has more than a code, in units of the least positive magnitude. -/
def gap (f : Format) (code : Nat) : Nat := 2 ^ (f.exponentField code - 1)

theorem gap_pos (f : Format) (code : Nat) : 0 < f.gap code := Nat.two_pow_pos _

theorem gap_mono (f : Format) {a b : Nat} (h : a ≤ b) : f.gap a ≤ f.gap b :=
  Nat.pow_le_pow_right Nat.two_pos (Nat.sub_le_sub_right (Nat.div_le_div_right h) 1)

theorem units_succ (f : Format) (code : Nat) : f.units (code + 1) = f.units code + f.gap code := by
  obtain ⟨significand, hcode, hlow, hhigh⟩ := f.exists_scaled code
  have hhere := f.units_of_scaled hlow hhigh.le
  have hnext := f.units_of_scaled (hlow.imp_right Nat.le_succ_of_le) hhigh
  rw [← hcode] at hhere
  rw [Nat.add_succ, ← hcode] at hnext
  rw [hhere, hnext, gap, Nat.succ_mul]

theorem units_strictMono (f : Format) : StrictMono f.units :=
  strictMono_nat_of_lt_succ fun code => by
    rw [units_succ]
    exact Nat.lt_add_of_pos_right (f.gap_pos code)

@[simp] theorem units_zero (f : Format) : f.units 0 = 0 := by
  have h := f.units_of_fields 0 (Nat.two_pow_pos f.fractionBits)
  simpa using h

/-- A magnitude is worth many gaps, or else it is one of the least and they are one apart. -/
theorem units_eq_or_gap_le (f : Format) (code : Nat) :
    (f.units code = code ∧ f.gap code = 1) ∨ 2 ^ f.fractionBits * f.gap code ≤ f.units code := by
  obtain ⟨significand, hcode, hlow, hhigh⟩ := f.exists_scaled code
  have hunits := f.units_of_scaled hlow hhigh.le
  rw [← hcode] at hunits
  rcases hlow with hzero | hlarge
  · left
    rw [hzero] at hcode hunits
    refine ⟨by omega, by rw [gap, hzero, Nat.pow_zero]⟩
  · right
    rw [hunits]
    exact Nat.mul_le_mul_right _ hlarge

theorem gap_le_units (f : Format) {code : Nat} (h : code ≠ 0) : f.gap code ≤ f.units code := by
  rcases f.units_eq_or_gap_le code with ⟨hunits, hgap⟩ | hle
  · omega
  · exact (Nat.le_mul_of_pos_left _ (Nat.two_pow_pos _)).trans hle

/-! ## Magnitudes -/

/-- The number that a code stands for. What the code of infinity gets is the magnitude that
would come next. -/
def magnitude (f : Format) (code : Nat) : ℚ := f.units code / (2 : ℚ) ^ f.unitExponent

theorem magnitude_strictMono (f : Format) : StrictMono f.magnitude := fun a b h => by
  have hunits : (f.units a : ℚ) < f.units b := by exact_mod_cast f.units_strictMono h
  exact div_lt_div_of_pos_right hunits (by positivity)

theorem magnitude_nonneg (f : Format) (code : Nat) : 0 ≤ f.magnitude code := by
  unfold magnitude
  positivity

theorem magnitude_succ (f : Format) (code : Nat) :
    f.magnitude (code + 1) = f.magnitude code + f.gap code / (2 : ℚ) ^ f.unitExponent := by
  rw [magnitude, magnitude, units_succ, Nat.cast_add, add_div]

theorem magnitude_le_pred_add_gap (f : Format) (code : Nat) :
    f.magnitude code ≤ f.magnitude (code - 1) + f.gap code / (2 : ℚ) ^ f.unitExponent := by
  cases code with
  | zero => exact le_add_of_nonneg_right (by positivity)
  | succ code =>
    have hgap : (f.gap code : ℚ) ≤ f.gap (code + 1) := by
      exact_mod_cast f.gap_mono (Nat.le_add_right code 1)
    rw [magnitude_succ, Nat.add_sub_cancel]
    exact add_le_add_right (div_le_div_of_nonneg_right hgap (by positivity)) _

theorem magnitude_succ_le (f : Format) {code : Nat} (h : code ≠ 0) :
    f.magnitude (code + 1) ≤ 2 * f.magnitude code := by
  have hgap : (f.gap code : ℚ) ≤ f.units code := by exact_mod_cast f.gap_le_units h
  have hle := div_le_div_of_nonneg_right hgap (show (0 : ℚ) ≤ 2 ^ f.unitExponent by positivity)
  rw [magnitude_succ, two_mul]
  exact add_le_add_right hle _

@[simp] theorem magnitude_zero (f : Format) : f.magnitude 0 = 0 := by
  simp [magnitude]

end PathTemplate.Binary.Format
