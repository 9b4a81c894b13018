-- Rounding to the nearest magnitude. The numbers that round to a code are its
-- cell, which goes from the middle in front of its magnitude to the middle
-- behind it, and a middle belongs to the even one of its two codes. Rounding
-- finds the code whose cell a number lies in.
import Mathlib
import PathTemplate.Binary.Format
import PathTemplate.Proofs.Magnitude

namespace PathTemplate.Binary.Format

-- Powers are those of natural numbers, whatever else is imported.
attribute [local instance (high)] instPowNat

/-! ## The nearest code -/

/-- No magnitude is nearer to the number than that of the code, and where another one is as
near, the code is even. Beyond the finite magnitudes the number goes to infinity. -/
structure IsNearest (f : Format) (q : ℚ) (code : Nat) : Prop where
  le_infinity : code ≤ f.infinity
  closest : ∀ other ≤ f.infinity, |q - f.magnitude code| ≤ |q - f.magnitude other|
  even_of_tie : ∀ other ≤ f.infinity, other ≠ code →
    |q - f.magnitude code| = |q - f.magnitude other| → code % 2 = 0

theorem abs_sub_le_abs_sub_iff {q a b : ℚ} (h : a < b) :
    |q - a| ≤ |q - b| ↔ q ≤ (a + b) / 2 := by
  rw [← sq_le_sq]
  refine ⟨fun hle => ?_, fun hle => ?_⟩
  · by_contra hlt
    have hpos : 0 < (b - a) * (2 * q - (a + b)) := mul_pos (by linarith) (by linarith)
    linarith
  · have hnonneg : 0 ≤ (b - a) * (a + b - 2 * q) := mul_nonneg (by linarith) (by linarith)
    linarith

theorem abs_sub_ge_abs_sub_iff {q a b : ℚ} (h : a < b) :
    |q - b| ≤ |q - a| ↔ (a + b) / 2 ≤ q := by
  have hneg := abs_sub_le_abs_sub_iff (q := -q) (neg_lt_neg h)
  rw [neg_sub_neg, neg_sub_neg, abs_sub_comm b, abs_sub_comm a] at hneg
  rw [hneg]
  refine ⟨fun hle => ?_, fun hle => ?_⟩ <;> linarith

theorem abs_sub_eq_abs_sub_iff {q a b : ℚ} (h : a < b) :
    |q - a| = |q - b| ↔ q = (a + b) / 2 := by
  rw [le_antisymm_iff, abs_sub_le_abs_sub_iff h, abs_sub_ge_abs_sub_iff h, ← le_antisymm_iff]

/-- The codes beside each other cannot both be even, and the magnitude of a code between two
others is nearer than theirs to their middle. -/
theorem IsNearest.unique {f : Format} {q : ℚ} {a b : Nat} (ha : f.IsNearest q a)
    (hb : f.IsNearest q b) : a = b := by
  wlog hab : a ≤ b generalizing a b
  · exact (this hb ha (Nat.le_of_not_le hab)).symm
  by_contra hne
  have hlt : a < b := Nat.lt_of_le_of_ne hab hne
  have htie := le_antisymm (ha.closest b hb.le_infinity) (hb.closest a ha.le_infinity)
  have haeven := ha.even_of_tie b hb.le_infinity (Ne.symm hne) htie
  have hbeven := hb.even_of_tie a ha.le_infinity hne htie.symm
  have hmiddle := (abs_sub_eq_abs_sub_iff (f.magnitude_strictMono hlt)).1 htie
  have hclosest := ha.closest (a + 1) (hlt.trans_le hb.le_infinity)
  rw [abs_sub_le_abs_sub_iff (f.magnitude_strictMono (Nat.lt_succ_self a))] at hclosest
  have hbetween := f.magnitude_strictMono (show a + 1 < b by omega)
  linarith

/-! ## Cells -/

/-- The middle of the magnitudes of a code and the one in front. The cell of zero begins at
zero. -/
def low (f : Format) (code : Nat) : ℚ := (f.magnitude (code - 1) + f.magnitude code) / 2

/-- The middle of the magnitudes of a code and the one behind. -/
def high (f : Format) (code : Nat) : ℚ := (f.magnitude code + f.magnitude (code + 1)) / 2

/-- The number lies between the two middles, and on one of them only if the code is even. -/
structure InCell (f : Format) (code : Nat) (q : ℚ) : Prop where
  low_le : f.low code ≤ q
  le_high : q ≤ f.high code
  even_of_middle : q = f.low code ∨ q = f.high code → code % 2 = 0

variable {f : Format} {code : Nat}

theorem low_mono (f : Format) : Monotone f.low := fun a b h => by
  have hbefore := f.magnitude_strictMono.monotone (Nat.sub_le_sub_right h 1)
  have hhere := f.magnitude_strictMono.monotone h
  unfold low
  linarith

theorem low_le_magnitude (f : Format) (code : Nat) : f.low code ≤ f.magnitude code := by
  have hle := f.magnitude_strictMono.monotone (Nat.sub_le code 1)
  unfold low
  linarith

theorem low_lt_magnitude (h : code ≠ 0) : f.low code < f.magnitude code := by
  have hlt := f.magnitude_strictMono (show code - 1 < code by omega)
  unfold low
  linarith

theorem magnitude_lt_high (f : Format) (code : Nat) : f.magnitude code < f.high code := by
  have hlt := f.magnitude_strictMono (Nat.lt_succ_self code)
  unfold high
  linarith

theorem inCell_magnitude (f : Format) (code : Nat) : f.InCell code (f.magnitude code) := by
  refine ⟨f.low_le_magnitude code, (f.magnitude_lt_high code).le, ?_⟩
  rintro (hlow | hhigh)
  · by_contra hodd
    exact (low_lt_magnitude (show code ≠ 0 by omega)).ne' hlow
  · exact absurd hhigh (f.magnitude_lt_high code).ne

/-- A cell has no gaps. -/
theorem InCell.between {a b q : ℚ} (ha : f.InCell code a) (hb : f.InCell code b) (haq : a ≤ q)
    (hqb : q ≤ b) : f.InCell code q := by
  refine ⟨ha.low_le.trans haq, hqb.trans hb.le_high, ?_⟩
  rintro (hlow | hhigh)
  · exact ha.even_of_middle (.inl (le_antisymm (haq.trans hlow.le) ha.low_le))
  · exact hb.even_of_middle (.inr (le_antisymm hb.le_high (hhigh.ge.trans hqb)))

theorem InCell.pos {q : ℚ} (h : f.InCell code q) (hcode : code ≠ 0) : 0 < q := by
  have hlow : 0 < f.low code := by
    have hpos := f.magnitude_strictMono (Nat.pos_of_ne_zero hcode)
    have hnonneg := f.magnitude_nonneg (code - 1)
    rw [magnitude_zero] at hpos
    unfold low
    linarith
  exact hlow.trans_le h.low_le

/-! ## Cells and nearest codes -/

theorem middle_le_low (f : Format) {other : Nat} (h : other < code) :
    (f.magnitude other + f.magnitude code) / 2 ≤ f.low code := by
  have hle := f.magnitude_strictMono.monotone (show other ≤ code - 1 by omega)
  unfold low
  linarith

theorem high_le_middle (f : Format) {other : Nat} (h : code < other) :
    f.high code ≤ (f.magnitude code + f.magnitude other) / 2 := by
  have hle := f.magnitude_strictMono.monotone (Nat.succ_le_of_lt h)
  unfold high
  linarith

/-- Below its cell a code has no rival. -/
theorem closest_of_low_le {q : ℚ} (h : f.low code ≤ q) {other : Nat} (hother : other < code) :
    |q - f.magnitude code| ≤ |q - f.magnitude other| ∧
      (|q - f.magnitude code| = |q - f.magnitude other| → q = f.low code) := by
  have hlt := f.magnitude_strictMono hother
  have hmiddle := f.middle_le_low hother
  refine ⟨(abs_sub_ge_abs_sub_iff hlt).2 (hmiddle.trans h), fun htie => ?_⟩
  have hq := (abs_sub_eq_abs_sub_iff hlt).1 htie.symm
  exact le_antisymm (hq.trans_le hmiddle) h

theorem InCell.isNearest {q : ℚ} (h : f.InCell code q) (hcode : code ≤ f.infinity) :
    f.IsNearest q code := by
  have habove (other : Nat) (hother : code < other) :
      |q - f.magnitude code| ≤ |q - f.magnitude other| ∧
        (|q - f.magnitude code| = |q - f.magnitude other| → q = f.high code) := by
    have hlt := f.magnitude_strictMono hother
    have hmiddle := f.high_le_middle hother
    refine ⟨(abs_sub_le_abs_sub_iff hlt).2 (h.le_high.trans hmiddle), fun htie => ?_⟩
    exact le_antisymm h.le_high (hmiddle.trans ((abs_sub_eq_abs_sub_iff hlt).1 htie).ge)
  refine ⟨hcode, fun other _ => ?_, fun other _ hne htie => ?_⟩
  · rcases Nat.lt_trichotomy other code with hlt | rfl | hgt
    · exact (closest_of_low_le h.low_le hlt).1
    · exact le_rfl
    · exact (habove other hgt).1
  · apply h.even_of_middle
    rcases Nat.lt_or_gt_of_ne hne with hlt | hgt
    · exact .inl ((closest_of_low_le h.low_le hlt).2 htie)
    · exact .inr ((habove other hgt).2 htie)

/-- A finite code has a neighbour on each side, and these two decide. -/
theorem IsNearest.inCell {q : ℚ} (h : f.IsNearest q code) (hcode : code < f.infinity)
    (hq : 0 ≤ q) : f.InCell code q := by
  have hnext := f.magnitude_strictMono (Nat.lt_succ_self code)
  have hlow : f.low code ≤ q ∧ (q = f.low code → code % 2 = 0) := by
    rcases Nat.eq_zero_or_pos code with rfl | hpos
    · exact ⟨by simpa [low] using hq, fun _ => rfl⟩
    · have hbefore : f.magnitude (code - 1) < f.magnitude code :=
        f.magnitude_strictMono (by omega)
      refine ⟨(abs_sub_ge_abs_sub_iff hbefore).1 (h.closest _ (by omega)), fun heq => ?_⟩
      exact h.even_of_tie _ (by omega) (by omega) ((abs_sub_eq_abs_sub_iff hbefore).2 heq).symm
  refine ⟨hlow.1, (abs_sub_le_abs_sub_iff hnext).1 (h.closest _ hcode), ?_⟩
  rintro (heq | heq)
  · exact hlow.2 heq
  · exact h.even_of_tie _ hcode (by omega) ((abs_sub_eq_abs_sub_iff hnext).2 heq)

/-! ## Cells without fractions -/

theorem inCell_iff {q : ℚ} : f.InCell code q ↔ f.low code ≤ q ∧ q ≤ f.high code ∧
    (q = f.low code ∨ q = f.high code → code % 2 = 0) :=
  ⟨fun h => ⟨h.low_le, h.le_high, h.even_of_middle⟩, fun h => ⟨h.1, h.2.1, h.2.2⟩⟩

theorem le_iff_of_mul_eq {x y factor : ℚ} {m n : Nat} (hfactor : 0 < factor)
    (hx : x * factor = m) (hy : y * factor = n) : x ≤ y ↔ m ≤ n := by
  rw [← mul_le_mul_iff_left₀ hfactor, hx, hy, Nat.cast_le]

theorem eq_iff_of_mul_eq {x y factor : ℚ} {m n : Nat} (hfactor : 0 < factor)
    (hx : x * factor = m) (hy : y * factor = n) : x = y ↔ m = n := by
  rw [← mul_left_inj' hfactor.ne', hx, hy, Nat.cast_inj]

theorem roundsTo_iff {num den : Nat} : f.RoundsTo code num den ↔
    (f.units (code - 1) + f.units code) * den ≤ 2 * num * 2 ^ f.unitExponent ∧
      2 * num * 2 ^ f.unitExponent ≤ (f.units code + f.units (code + 1)) * den ∧
      (2 * num * 2 ^ f.unitExponent = (f.units (code - 1) + f.units code) * den ∨
        2 * num * 2 ^ f.unitExponent = (f.units code + f.units (code + 1)) * den →
          code % 2 = 0) := by
  rw [RoundsTo]
  split <;> omega

/-- What `RoundsTo` compares are the number and the two middles, each multiplied by the same
number, which clears the fractions. -/
theorem roundsTo_iff_inCell {num den : Nat} (hden : 0 < den) :
    f.RoundsTo code num den ↔ f.InCell code (num / den) := by
  have hden' : (0 : ℚ) < den := by exact_mod_cast hden
  have hfactor : (0 : ℚ) < 2 * 2 ^ f.unitExponent * den := by positivity
  have hvalue : (num / den : ℚ) * (2 * 2 ^ f.unitExponent * den) =
      (2 * num * 2 ^ f.unitExponent : Nat) := by
    push_cast
    field_simp
  have hlow : f.low code * (2 * 2 ^ f.unitExponent * den) =
      ((f.units (code - 1) + f.units code) * den : Nat) := by
    unfold low magnitude
    push_cast
    field_simp
  have hhigh : f.high code * (2 * 2 ^ f.unitExponent * den) =
      ((f.units code + f.units (code + 1)) * den : Nat) := by
    unfold high magnitude
    push_cast
    field_simp
  rw [inCell_iff, le_iff_of_mul_eq hfactor hlow hvalue, le_iff_of_mul_eq hfactor hvalue hhigh,
    eq_iff_of_mul_eq hfactor hvalue hlow, eq_iff_of_mul_eq hfactor hvalue hhigh, roundsTo_iff]

/-! ## The rounding of a quotient -/

/-- A whole number is half a unit away from a quotient at most, and where it is that far it
is even. -/
structure IsHalfEven (num den n : Nat) : Prop where
  le : 2 * (n * den) ≤ 2 * num + den
  ge : 2 * num ≤ 2 * (n * den) + den
  even_of_half : 2 * (n * den) = 2 * num + den ∨ 2 * num = 2 * (n * den) + den → n % 2 = 0

theorem isHalfEven_roundHalfEven (num : Nat) {den : Nat} (hden : 0 < den) :
    IsHalfEven num den (roundHalfEven num den) := by
  have hsplit := Nat.div_add_mod' num den
  have hrest := Nat.mod_lt num hden
  have hnext : (num / den + 1) * den = num / den * den + den := Nat.succ_mul _ _
  unfold roundHalfEven
  simp only
  split_ifs with hless hmore
  · exact ⟨by omega, by omega, by omega⟩
  · exact ⟨by omega, by omega, by omega⟩
  · rcases Nat.mod_two_eq_zero_or_one (num / den) with heven | hodd
    · rw [heven, Nat.add_zero]
      exact ⟨by omega, by omega, by omega⟩
    · rw [hodd]
      exact ⟨by omega, by omega, by omega⟩

/-- The exponent that rounding takes is the least at which the quotient has no digit too many. -/
theorem bounds_of_log2 (scaled bits : Nat) {den : Nat} (hden : 0 < den) :
    scaled < 2 * 2 ^ bits * (den * 2 ^ (Nat.log2 (scaled / den) - bits)) ∧
      (Nat.log2 (scaled / den) - bits = 0 ∨
        2 ^ bits * (den * 2 ^ (Nat.log2 (scaled / den) - bits)) ≤ scaled) := by
  have hpow (exponent : Nat) :
      2 ^ bits * (den * 2 ^ exponent) = 2 ^ (bits + exponent) * den := by
    rw [Nat.pow_add]
    ring
  rw [Nat.mul_assoc, hpow]
  refine ⟨?_, ?_⟩
  · have hquotient : scaled / den < 2 ^ (bits + (Nat.log2 (scaled / den) - bits) + 1) :=
      Nat.lt_log2_self.trans_le (Nat.pow_le_pow_right Nat.two_pos (by omega))
    rw [Nat.div_lt_iff_lt_mul hden, Nat.pow_succ] at hquotient
    linarith
  · by_cases hbits : Nat.log2 (scaled / den) ≤ bits
    · exact .inl (by omega)
    · right
      have hne : scaled / den ≠ 0 := by
        intro hzero
        rw [hzero, Nat.log2_zero] at hbits
        omega
      have hquotient := Nat.log2_self_le hne
      rw [Nat.le_div_iff_mul_le hden] at hquotient
      rwa [show bits + (Nat.log2 (scaled / den) - bits) = Nat.log2 (scaled / den) by omega]

/-- The code that a quotient is rounded to before what is too large goes to infinity. -/
def unboundedNearest (f : Format) (num den : Nat) : Nat :=
  let scaled := num * 2 ^ f.unitExponent
  let exponent := Nat.log2 (scaled / den) - f.fractionBits
  exponent * 2 ^ f.fractionBits + roundHalfEven scaled (den * 2 ^ exponent)

theorem nearest_eq_min (f : Format) (num den : Nat) :
    f.nearest num den = min (f.unboundedNearest num den) f.infinity := rfl

section Scaled

variable {exponent significand num den : Nat}

/-- A rounded significand has no digit too many, unless it is the first one that has. -/
theorem IsHalfEven.significand_bounds {bits step : Nat} (hstep : 0 < step)
    (h : IsHalfEven num step significand) (hupper : num < 2 * 2 ^ bits * step)
    (hlower : exponent = 0 ∨ 2 ^ bits * step ≤ num) :
    significand ≤ 2 * 2 ^ bits ∧ (exponent = 0 ∨ 2 ^ bits ≤ significand) := by
  have hle := h.le
  have hge := h.ge
  refine ⟨?_, hlower.imp_right fun hlow => ?_⟩
  · by_contra hmany
    have hmul := Nat.mul_le_mul_right step (show 2 * 2 ^ bits + 1 ≤ significand by omega)
    rw [Nat.succ_mul] at hmul
    omega
  · by_contra hfew
    have hmul := Nat.mul_le_mul_right step (show significand + 1 ≤ 2 ^ bits by omega)
    rw [Nat.add_mul, Nat.one_mul] at hmul
    omega

theorem units_scaled_mul (hmany : significand ≤ 2 * 2 ^ f.fractionBits)
    (hfew : exponent = 0 ∨ 2 ^ f.fractionBits ≤ significand) (den : Nat) :
    f.units (exponent * 2 ^ f.fractionBits + significand) * den =
      significand * (den * 2 ^ exponent) := by
  rw [f.units_of_scaled hfew hmany]
  ring

/-- The next code is a step away, except behind the last significand of an exponent. -/
theorem units_above_mul (hmany : significand ≤ 2 * 2 ^ f.fractionBits)
    (hfew : exponent = 0 ∨ 2 ^ f.fractionBits ≤ significand) (den : Nat) :
    f.units (exponent * 2 ^ f.fractionBits + significand + 1) * den =
        significand * (den * 2 ^ exponent) + den * 2 ^ exponent ∨
      significand = 2 * 2 ^ f.fractionBits ∧ significand * (den * 2 ^ exponent) ≤
        f.units (exponent * 2 ^ f.fractionBits + significand + 1) * den := by
  rcases hmany.lt_or_eq with hinside | hend
  · left
    have hnext := hfew.imp_right Nat.le_succ_of_le
    rw [Nat.add_assoc, units_scaled_mul (Nat.succ_le_of_lt hinside) hnext, Nat.succ_eq_add_one,
      Nat.add_mul, Nat.one_mul]
  · right
    rw [← units_scaled_mul hmany hfew]
    exact ⟨hend, Nat.mul_le_mul_right den (f.units_strictMono.monotone (Nat.le_add_right _ 1))⟩

/-- The code in front is a step away, except at the first significand of an exponent. -/
theorem units_below_mul (hmany : significand ≤ 2 * 2 ^ f.fractionBits)
    (hfew : exponent = 0 ∨ 2 ^ f.fractionBits ≤ significand) (hden : 0 < den) :
    f.units (exponent * 2 ^ f.fractionBits + significand - 1) * den + den * 2 ^ exponent =
        significand * (den * 2 ^ exponent) ∨
      (exponent = 0 ∧ significand = 0 ∧
        f.units (exponent * 2 ^ f.fractionBits + significand - 1) * den = 0) ∨
      (exponent ≠ 0 ∧ significand = 2 ^ f.fractionBits ∧
        f.units (exponent * 2 ^ f.fractionBits + significand - 1) * den <
          significand * (den * 2 ^ exponent)) := by
  have hfirst := Nat.two_pow_pos f.fractionBits
  by_cases hinside : 0 < significand ∧ (exponent = 0 ∨ 2 ^ f.fractionBits < significand)
  · obtain ⟨hpos, hafter⟩ := hinside
    left
    rw [Nat.add_sub_assoc hpos, units_scaled_mul ((Nat.sub_le _ _).trans hmany)
        (hafter.imp_right Nat.le_sub_one_of_lt),
      ← Nat.succ_mul, Nat.succ_eq_add_one, Nat.sub_add_cancel hpos]
  · by_cases hzero : exponent = 0
    · obtain rfl : significand = 0 := by omega
      right; left
      rw [hzero, Nat.zero_mul, Nat.add_zero, Nat.zero_sub, units_zero]
      exact ⟨rfl, rfl, Nat.zero_mul den⟩
    · right; right
      rw [← units_scaled_mul hmany hfew]
      refine ⟨hzero, by omega, Nat.mul_lt_mul_of_pos_right ?_ hden⟩
      exact f.units_strictMono (by omega)

/-- A significand rounds to its code when it is half even. At the two ends of an exponent the
neighbour is not a step away, but the quotient does not reach beyond them. -/
theorem IsHalfEven.roundsTo (hbits : 0 < f.fractionBits) (hden : 0 < den)
    (h : IsHalfEven (num * 2 ^ f.unitExponent) (den * 2 ^ exponent) significand)
    (hupper : num * 2 ^ f.unitExponent < 2 * 2 ^ f.fractionBits * (den * 2 ^ exponent))
    (hlower : exponent = 0 ∨
      2 ^ f.fractionBits * (den * 2 ^ exponent) ≤ num * 2 ^ f.unitExponent) :
    f.RoundsTo (exponent * 2 ^ f.fractionBits + significand) num den := by
  have hstep : 0 < den * 2 ^ exponent := Nat.mul_pos hden (Nat.two_pow_pos _)
  obtain ⟨hmany, hfew⟩ := h.significand_bounds hstep hupper hlower
  obtain ⟨hle, hge, hhalf⟩ := h
  have heven : significand % 2 = 0 → (exponent * 2 ^ f.fractionBits + significand) % 2 = 0 := by
    obtain ⟨bits, hsucc⟩ := Nat.exists_eq_succ_of_ne_zero hbits.ne'
    rw [hsucc, Nat.pow_succ, ← Nat.mul_assoc]
    omega
  rw [roundsTo_iff, Nat.mul_assoc 2, Nat.add_mul, Nat.add_mul, units_scaled_mul hmany hfew]
  have hfirst := Nat.two_pow_pos f.fractionBits
  have habove := units_above_mul hmany hfew den
  rcases units_below_mul hmany hfew hden with hbelow | ⟨rfl, rfl, hbelow⟩ | ⟨hexponent, rfl, hbelow⟩
  · rcases habove with habove | ⟨rfl, habove⟩ <;> omega
  · -- Zero has no neighbour in front, and no quotient is below it.
    have hnext := habove.resolve_right (fun hend => absurd hend.1 (by omega))
    omega
  · -- The neighbour in front is less than a step away, but the quotient is not below the first.
    have hlow := hlower.resolve_left hexponent
    have hnext := habove.resolve_right (fun hend => absurd hend.1 (by omega))
    omega

end Scaled

/-! ## Rounding finds the nearest code -/

theorem roundsTo_unboundedNearest (hbits : 0 < f.fractionBits) (num : Nat) {den : Nat}
    (hden : 0 < den) : f.RoundsTo (f.unboundedNearest num den) num den := by
  obtain ⟨hupper, hlower⟩ := bounds_of_log2 (num * 2 ^ f.unitExponent) f.fractionBits hden
  have hstep := Nat.mul_pos hden (Nat.two_pow_pos
    (Nat.log2 (num * 2 ^ f.unitExponent / den) - f.fractionBits))
  exact (isHalfEven_roundHalfEven _ hstep).roundsTo hbits hden hupper hlower

/-- From the middle in front of it on, all numbers go to infinity. -/
theorem isNearest_infinity (hbits : 0 < f.fractionBits) {q : ℚ} (h : f.low f.infinity ≤ q) :
    f.IsNearest q f.infinity := by
  refine ⟨le_rfl, fun other hother => ?_, fun _ _ _ _ => ?_⟩
  · rcases hother.lt_or_eq with hlt | rfl
    · exact (closest_of_low_le h hlt).1
    · exact le_rfl
  · obtain ⟨bits, hsucc⟩ := Nat.exists_eq_succ_of_ne_zero hbits.ne'
    rw [infinity, hsucc, Nat.pow_succ, ← Nat.mul_assoc, Nat.mul_mod_left]

theorem isNearest_nearest (hbits : 0 < f.fractionBits) (num : Nat) {den : Nat} (hden : 0 < den) :
    f.IsNearest (num / den) (f.nearest num den) := by
  have hcell := (roundsTo_iff_inCell hden).1 (roundsTo_unboundedNearest hbits num hden)
  rw [nearest_eq_min]
  rcases Nat.le_total (f.unboundedNearest num den) f.infinity with hfinite | hbeyond
  · rw [Nat.min_eq_left hfinite]
    exact hcell.isNearest hfinite
  · rw [Nat.min_eq_right hbeyond]
    exact isNearest_infinity hbits ((f.low_mono hbeyond).trans hcell.low_le)

/-- Rounding gives the one nearest code. -/
theorem nearest_eq_iff (hbits : 0 < f.fractionBits) {num den : Nat} (hden : 0 < den) :
    f.nearest num den = code ↔ f.IsNearest (num / den) code := by
  refine ⟨?_, (isNearest_nearest hbits num hden).unique⟩
  rintro rfl
  exact isNearest_nearest hbits num hden

end PathTemplate.Binary.Format
