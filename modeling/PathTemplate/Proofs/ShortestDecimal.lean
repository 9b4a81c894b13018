-- The shortest decimal of a magnitude. The search over the grids stops at the
-- coarsest grid that has a point in the cell of the magnitude, and takes the
-- point that is nearest to it. Any other decimal in the cell then has at least
-- as many digits, and where it has as many it is no nearer.
import Mathlib
import PathTemplate.Decimal.Shortest
import PathTemplate.Proofs.Digits
import PathTemplate.Proofs.Rounding

namespace PathTemplate.Decimal

open Binary (Format)

-- Powers are those of natural numbers, whatever else is imported.
attribute [local instance (high)] instPowNat

variable {f : Format} {code : Nat}

/-! ## Points of a grid -/

/-- How far a decimal is from the magnitude of a code. -/
def distance (f : Format) (code : Nat) (d : Decimal) : ℚ := |d.value - f.magnitude code|

theorem value_eq_scaled (f : Format) (step n : Nat) :
    value ⟨n, (step : Int) - f.unitExponent⟩ =
      ((n * 10 ^ step : Nat) : ℚ) / ((10 ^ f.unitExponent : Nat) : ℚ) := by
  simp only [value]
  rw [zpow_sub₀ (by norm_num), zpow_natCast, zpow_natCast]
  push_cast
  ring

theorem magnitude_eq_decimalUnits (f : Format) (code : Nat) :
    f.magnitude code = (decimalUnits f code : ℚ) / ((10 ^ f.unitExponent : Nat) : ℚ) := by
  have hten : (10 : ℚ) ^ f.unitExponent = 2 ^ f.unitExponent * 5 ^ f.unitExponent := by
    rw [← mul_pow]
    norm_num
  rw [Format.magnitude, decimalUnits]
  push_cast
  rw [hten]
  field_simp

theorem unitPower_pos (f : Format) : (0 : ℚ) < ((10 ^ f.unitExponent : Nat) : ℚ) := by
  exact_mod_cast Nat.pow_pos (by decide)

theorem roundsTo_iff_inCell_value {step n : Nat} :
    f.RoundsTo code (n * 10 ^ step) (10 ^ f.unitExponent) ↔
      f.InCell code (value ⟨n, (step : Int) - f.unitExponent⟩) := by
  rw [value_eq_scaled]
  exact Format.roundsTo_iff_inCell (Nat.pow_pos (by decide))

/-! ## The two points beside the magnitude -/

section Beside

variable {below : Nat} {e : Int}

/-- If a point that is not above the magnitude rounds to it, so does the one right below. -/
theorem below_of_le (hlow : value ⟨below, e⟩ ≤ f.magnitude code) {n : Nat} (hn : n ≤ below)
    (h : f.InCell code (value ⟨n, e⟩)) :
    f.InCell code (value ⟨below, e⟩) ∧ distance f code ⟨below, e⟩ ≤ distance f code ⟨n, e⟩ := by
  have hle := value_mono hn e
  refine ⟨h.between (f.inCell_magnitude code) hle hlow, ?_⟩
  rw [distance, distance, abs_of_nonpos (by linarith), abs_of_nonpos (by linarith)]
  linarith

/-- If a point above the magnitude rounds to it, so does the one right above. -/
theorem above_of_lt (hhigh : f.magnitude code < value ⟨below + 1, e⟩) {n : Nat} (hn : below < n)
    (h : f.InCell code (value ⟨n, e⟩)) :
    f.InCell code (value ⟨below + 1, e⟩) ∧
      distance f code ⟨below + 1, e⟩ ≤ distance f code ⟨n, e⟩ := by
  have hle := value_mono (Nat.succ_le_of_lt hn) e
  refine ⟨(f.inCell_magnitude code).between h hhigh.le hle, ?_⟩
  rw [distance, distance, abs_of_nonneg (by linarith), abs_of_nonneg (by linarith)]
  linarith

end Beside

theorem lt_next_point (f : Format) (code step : Nat) :
    decimalUnits f code < (decimalUnits f code / 10 ^ step + 1) * 10 ^ step := by
  rw [Nat.succ_mul]
  exact Nat.lt_div_mul_add (Nat.pow_pos (by decide))

theorem magnitude_between (f : Format) (code step : Nat) :
    value ⟨decimalUnits f code / 10 ^ step, (step : Int) - f.unitExponent⟩ ≤ f.magnitude code ∧
      f.magnitude code <
        value ⟨decimalUnits f code / 10 ^ step + 1, (step : Int) - f.unitExponent⟩ := by
  rw [value_eq_scaled, value_eq_scaled, magnitude_eq_decimalUnits]
  refine ⟨div_le_div_of_nonneg_right ?_ (unitPower_pos f).le,
    div_lt_div_of_pos_right ?_ (unitPower_pos f)⟩
  · exact_mod_cast Nat.div_mul_le_self (decimalUnits f code) (10 ^ step)
  · exact_mod_cast lt_next_point f code step

/-- Which of the two is nearer can be told without fractions. -/
theorem distance_le_distance_iff {step m n : Nat} (hm : m * 10 ^ step ≤ decimalUnits f code)
    (hn : decimalUnits f code ≤ n * 10 ^ step) :
    distance f code ⟨n, (step : Int) - f.unitExponent⟩ ≤
        distance f code ⟨m, (step : Int) - f.unitExponent⟩ ↔
      n * 10 ^ step - decimalUnits f code ≤ decimalUnits f code - m * 10 ^ step := by
  rw [distance, distance, value_eq_scaled, value_eq_scaled, magnitude_eq_decimalUnits,
    div_sub_div_same, div_sub_div_same, abs_div, abs_div,
    div_le_div_iff_of_pos_right (abs_pos.2 (unitPower_pos f).ne'),
    abs_sub_comm ((m * 10 ^ step : Nat) : ℚ), ← Nat.cast_sub hn, ← Nat.cast_sub hm, Nat.abs_cast,
    Nat.abs_cast, Nat.cast_le]

/-! ## The choice on one grid -/

/-- The decimal rounds to the code, and no other point of its grid that does is nearer. -/
structure IsClosest (f : Format) (code : Nat) (d : Decimal) : Prop where
  inCell : f.InCell code d.value
  closest : ∀ n, f.InCell code (value ⟨n, d.exponent⟩) →
    distance f code d ≤ distance f code ⟨n, d.exponent⟩

/-- The two points beside the magnitude stand for all that round to it. -/
theorem isClosest_of_beside {below n : Nat} {e : Int} (hlow : value ⟨below, e⟩ ≤ f.magnitude code)
    (hhigh : f.magnitude code < value ⟨below + 1, e⟩) (hcell : f.InCell code (value ⟨n, e⟩))
    (hbelow : f.InCell code (value ⟨below, e⟩) →
      distance f code ⟨n, e⟩ ≤ distance f code ⟨below, e⟩)
    (habove : f.InCell code (value ⟨below + 1, e⟩) →
      distance f code ⟨n, e⟩ ≤ distance f code ⟨below + 1, e⟩) :
    IsClosest f code ⟨n, e⟩ := by
  refine ⟨hcell, fun m hm => ?_⟩
  rcases Nat.lt_or_ge below m with hlt | hle
  · obtain ⟨hfits, hnearer⟩ := above_of_lt hhigh hlt hm
    exact (habove hfits).trans hnearer
  · obtain ⟨hfits, hnearer⟩ := below_of_le hlow hle hm
    exact (hbelow hfits).trans hnearer

/-- A grid gives the nearer one of the two points beside the magnitude that round to it, and
nothing only if none of its points does. -/
theorem onGrid?_spec (f : Format) (code step : Nat) :
    (∃ n, onGrid? f code step = some n ∧
      IsClosest f code ⟨n, (step : Int) - f.unitExponent⟩) ∨
    onGrid? f code step = none ∧
      ∀ n, ¬ f.InCell code (value ⟨n, (step : Int) - f.unitExponent⟩) := by
  obtain ⟨hlow, hhigh⟩ := magnitude_between f code step
  have hnearer := distance_le_distance_iff (Nat.div_mul_le_self (decimalUnits f code) (10 ^ step))
    (lt_next_point f code step).le
  have hfits {n : Nat} : f.RoundsTo code (n * 10 ^ step) (10 ^ f.unitExponent) ↔
      f.InCell code (value ⟨n, (step : Int) - f.unitExponent⟩) := roundsTo_iff_inCell_value
  simp only [onGrid?, Bool.and_eq_true, decide_eq_true_eq]
  split
  · next hboth =>
    obtain ⟨hbelow, habove⟩ := hboth.imp hfits.1 hfits.1
    left
    refine ⟨_, rfl, ?_⟩
    split
    · next hle =>
      exact isClosest_of_beside hlow hhigh habove (fun _ => hnearer.2 hle) (fun _ => le_rfl)
    · next hgt =>
      have hlt := le_of_not_ge fun hle => hgt (hnearer.1 hle)
      exact isClosest_of_beside hlow hhigh hbelow (fun _ => le_rfl) (fun _ => hlt)
  · next hnotBoth =>
    split
    · next hbelow =>
      refine .inl ⟨_, rfl, isClosest_of_beside hlow hhigh (hfits.1 hbelow) (fun _ => le_rfl) ?_⟩
      exact fun habove => absurd ⟨hbelow, hfits.2 habove⟩ hnotBoth
    · next hnotBelow =>
      split
      · next habove =>
        refine .inl ⟨_, rfl, isClosest_of_beside hlow hhigh (hfits.1 habove) ?_ (fun _ => le_rfl)⟩
        exact fun hbelow => absurd (hfits.2 hbelow) hnotBelow
      · next hnotAbove =>
        -- A point that fits would bring the one beside the magnitude into the cell with it.
        refine .inr ⟨rfl, fun n hn => ?_⟩
        rcases Nat.lt_or_ge (decimalUnits f code / 10 ^ step) n with hlt | hle
        · exact hnotAbove (hfits.2 (above_of_lt hhigh hlt hn).1)
        · exact hnotBelow (hfits.2 (below_of_le hlow hle hn).1)

/-! ## The search over the grids -/

/-- The decimal is closest on its grid, and no coarser grid has a point that rounds to the
code. -/
structure IsShortest (f : Format) (code : Nat) (d : Decimal) : Prop extends
    IsClosest f code d where
  coarsest : ∀ n e, d.exponent < e → ¬ f.InCell code (value ⟨n, e⟩)

/-- The units hold the magnitude itself, so the search ends there at the latest. -/
theorem isShortest_search (f : Format) (code step : Nat)
    (h : ∀ n e, (step : Int) - f.unitExponent < e → ¬ f.InCell code (value ⟨n, e⟩)) :
    IsShortest f code (search f code step) := by
  induction step with
  | zero =>
    have hvalue : value (search f code 0) = f.magnitude code := by
      have hscaled := value_eq_scaled f 0 (decimalUnits f code)
      rw [Nat.pow_zero, Nat.mul_one, ← magnitude_eq_decimalUnits] at hscaled
      rw [← hscaled, search]
      simp
    refine ⟨⟨by rw [hvalue]; exact f.inCell_magnitude code, fun n _ => ?_⟩, ?_⟩
    · rw [distance, hvalue, sub_self, abs_zero]
      exact abs_nonneg _
    · intro n e he
      exact h n e (by simpa [search] using he)
  | succ step ih =>
    rw [search]
    rcases onGrid?_spec f code (step + 1) with ⟨n, hfound, hclosest⟩ | ⟨hnone, hempty⟩
    · rw [hfound]
      exact ⟨hclosest, h⟩
    · rw [hnone]
      apply ih
      intro n e he
      have hle : ((step + 1 : Nat) : Int) - f.unitExponent ≤ e := by omega
      rcases hle.lt_or_eq with hlt | rfl
      · exact h n e hlt
      · exact hempty n

theorem magnitude_lt_first_grid (f : Format) (code : Nat) :
    f.magnitude code <
      value ⟨1, ((digits (decimalUnits f code)).length : Int) - f.unitExponent⟩ := by
  have hlt : decimalUnits f code < 1 * 10 ^ (digits (decimalUnits f code)).length := by
    rw [Nat.one_mul]
    exact lt_pow_length_digits _
  rw [value_eq_scaled, magnitude_eq_decimalUnits]
  exact div_lt_div_of_pos_right (by exact_mod_cast hlt) (unitPower_pos f)

theorem coefficient_pos_of_inCell (hcode : code ≠ 0) {n : Nat} {e : Int}
    (h : f.InCell code (value ⟨n, e⟩)) : 0 < n := by
  rw [Nat.pos_iff_ne_zero]
  rintro rfl
  exact (h.pos hcode).ne' (value_zero e)

/-- The first grid is that of the power of ten above the magnitude. The next power of ten is
out of reach, as the cell ends below twice the magnitude. -/
theorem isShortest_shortest (hcode : code ≠ 0) : IsShortest f code (shortest f code) := by
  rw [shortest, if_neg hcode]
  apply isShortest_search
  intro n e he hcell
  have hone := value_mono (coefficient_pos_of_inCell hcode hcell) e
  have hnext := value_one_mono (Int.add_one_le_of_lt he)
  rw [value_one_succ] at hnext
  have hfirst := magnitude_lt_first_grid f code
  have hhigh := hcell.le_high
  have hsucc := f.magnitude_succ_le hcode
  have hnonneg := f.magnitude_nonneg code
  unfold Format.high at hhigh
  linarith

theorem inCell_shortest (f : Format) (code : Nat) : f.InCell code (shortest f code).value := by
  by_cases hcode : code = 0
  · have hzero := f.inCell_magnitude 0
    rw [Format.magnitude_zero, ← value_zero 0] at hzero
    rwa [shortest, if_pos hcode, hcode]
  · exact (isShortest_shortest hcode).inCell

/-! ## Other decimals that round to the code -/

namespace IsShortest

variable {d : Decimal} (h : IsShortest f code d)

include h

theorem mod_ten_ne_zero {n : Nat} (hn : f.InCell code (value ⟨n, d.exponent⟩)) : n % 10 ≠ 0 := by
  intro hzero
  rw [show n = n / 10 * 10 ^ 1 by omega, value_mul_pow] at hn
  exact h.coarsest _ _ (Int.lt_succ _) hn

theorem coefficient_mod_ten : d.coefficient % 10 ≠ 0 := h.mod_ten_ne_zero h.inCell

/-- Between two numbers of different length there is a power of ten, and it would be on the
next grid. So all points of the grid that round to the code are of one length. -/
theorem length_digits_le {m n : Nat} (hm : f.InCell code (value ⟨m, d.exponent⟩))
    (hn : f.InCell code (value ⟨n, d.exponent⟩)) : (digits n).length ≤ (digits m).length := by
  by_contra hlonger
  have hlength := length_digits_pos m
  have habove := lt_pow_length_digits m
  have hbelow : 10 ^ (digits m).length ≤ n := by
    by_contra hlt
    exact hlonger ((length_digits_le_iff hlength).2 (by omega))
  have hpower := h.mod_ten_ne_zero (hm.between hn (value_mono habove.le _) (value_mono hbelow _))
  obtain ⟨k, hk⟩ := Nat.exists_eq_succ_of_ne_zero hlength.ne'
  rw [hk, Nat.pow_succ, Nat.mul_mod_left] at hpower
  exact hpower rfl

theorem length_digits_eq {m n : Nat} (hm : f.InCell code (value ⟨m, d.exponent⟩))
    (hn : f.InCell code (value ⟨n, d.exponent⟩)) : (digits m).length = (digits n).length :=
  le_antisymm (h.length_digits_le hn hm) (h.length_digits_le hm hn)

/-- A point of a finer grid stands between two points of this one, and one of them rounds to
the code, too. So it is longer, unless the two are zero and the power of ten. -/
theorem longer_or_below_one {m : Nat} {e : Int} (he : e < d.exponent)
    (hm : f.InCell code (value ⟨m, e⟩)) :
    (digits d.coefficient).length < (digits m).length ∨
      value ⟨m, e⟩ ≤ value ⟨1, d.exponent⟩ ∧ f.InCell code (value ⟨1, d.exponent⟩) := by
  obtain ⟨k, hk⟩ := Int.eq_ofNat_of_zero_le (Int.sub_nonneg_of_le he.le)
  have hfiner (n : Nat) : value ⟨n * 10 ^ k, e⟩ = value ⟨n, d.exponent⟩ := by
    rw [value_mul_pow, show e + k = d.exponent by omega]
  have hwhole := value_mono (Nat.div_mul_le_self m (10 ^ k)) e
  have hnext := value_mono
    ((Nat.lt_div_mul_add (Nat.pow_pos (by decide))).le : m ≤ m / 10 ^ k * 10 ^ k + 10 ^ k) e
  rw [← Nat.succ_mul, hfiner] at hnext
  rw [hfiner] at hwhole
  have hpositive (hzero : m / 10 ^ k ≠ 0)
      (hsame : (digits (m / 10 ^ k)).length = (digits d.coefficient).length) :
      (digits d.coefficient).length < (digits m).length := by
    have hlonger := length_digits_mono (Nat.div_mul_le_self m (10 ^ k))
    rw [digits_mul_pow hzero, List.length_append, List.length_replicate] at hlonger
    omega
  rcases Nat.lt_or_ge (m / 10 ^ k) d.coefficient with hbelow | habove
  · -- The coefficient is further up, so the next point rounds to the code.
    have hcell := hm.between h.inCell hnext (value_mono hbelow d.exponent)
    by_cases hzero : m / 10 ^ k = 0
    · rw [hzero] at hnext hcell
      exact .inr ⟨hnext, hcell⟩
    · left
      apply hpositive hzero
      rw [← length_digits_succ (h.mod_ten_ne_zero hcell)]
      exact h.length_digits_eq hcell h.inCell
  · have hcell := h.inCell.between hm (value_mono habove d.exponent) hwhole
    left
    have hcoefficient := h.coefficient_mod_ten
    exact hpositive (by omega) (h.length_digits_eq hcell h.inCell)

end IsShortest

/-! ## A power of ten above the magnitude -/

/-- A cell that reaches from nine tenths of a power of ten up to the power is wide, as only
those of the least magnitudes are. -/
theorem least_of_wide_cell (hbits : 10 ≤ 2 ^ f.fractionBits) {power : ℚ}
    (hlow : f.low code ≤ 9 / 10 * power) (hhigh : power ≤ f.high code)
    (hpower : f.magnitude code < power) :
    f.units code = code ∧ f.units (code + 1) = code + 1 ∧ code < 10 := by
  have hunit : (0 : ℚ) < 2 ^ f.unitExponent := by positivity
  have hwidth := f.magnitude_le_pred_add_gap code
  have hsucc := f.magnitude_succ code
  unfold Format.low at hlow
  unfold Format.high at hhigh
  have hgap : f.units code < 10 * f.gap code := by
    have hlt : f.magnitude code < 10 * (f.gap code / 2 ^ f.unitExponent) := by linarith
    rw [Format.magnitude, ← mul_div_assoc, div_lt_div_iff_of_pos_right hunit] at hlt
    exact_mod_cast hlt
  rcases f.units_eq_or_gap_le code with ⟨hunits, hone⟩ | hmany
  · rw [f.units_succ]
    omega
  · have hmul := Nat.mul_le_mul_right (f.gap code) hbits
    omega

theorem over_and_under {least power unit : Nat} (hunit : 0 < unit) (hover : 3 * least < 2 * power)
    (hunder : 19 * power ≤ 40 * least) :
    3 / 2 * ((least : ℚ) / unit) < (power : ℚ) / unit ∧
      19 / 20 * ((power : ℚ) / unit) ≤ 2 * ((least : ℚ) / unit) := by
  have hpos : (0 : ℚ) < unit := by exact_mod_cast hunit
  have hover' : (3 * least : ℚ) < 2 * power := by exact_mod_cast hover
  have hunder' : (19 * power : ℚ) ≤ 40 * least := by exact_mod_cast hunder
  rw [← mul_div_assoc, ← mul_div_assoc, ← mul_div_assoc, div_lt_div_iff_of_pos_right hpos,
    div_le_div_iff_of_pos_right hpos]
  constructor <;> linarith

/-- The power of ten that is nearest to the least magnitudes. -/
theorem near_least_magnitudes :
    3 / 2 * Format.double.magnitude 1 < value ⟨1, -323⟩ ∧
      19 / 20 * value ⟨1, -323⟩ ≤ 2 * Format.double.magnitude 1 := by
  have hpower := value_eq_scaled .double 751 1
  rw [show ((751 : Nat) : Int) - Format.double.unitExponent = -323 by decide] at hpower
  rw [hpower, magnitude_eq_decimalUnits]
  exact over_and_under (Nat.pow_pos (by decide)) (by decide +kernel) (by decide +kernel)

theorem least_magnitude_pos : 0 < Format.double.magnitude 1 := by
  have hpos := Format.double.magnitude_strictMono Nat.one_pos
  rwa [Format.magnitude_zero] at hpos

/-- There is no other power of ten between the least positive magnitude and ten times as much. -/
theorem eq_of_near_least {s : Int} (hlow : Format.double.magnitude 1 < value ⟨1, s⟩)
    (hhigh : value ⟨1, s⟩ ≤ 10 * Format.double.magnitude 1) : s = -323 := by
  obtain ⟨hover, hunder⟩ := near_least_magnitudes
  have hleast := least_magnitude_pos
  rcases lt_trichotomy s (-323) with hsmall | hs | hlarge
  · have hbelow := value_one_mono (Int.add_one_le_of_lt hsmall)
    rw [value_one_succ] at hbelow
    linarith
  · exact hs
  · have habove := value_one_mono (Int.add_one_le_of_lt hlarge)
    rw [value_one_succ] at habove
    linarith

/-- A power of ten in the cell is at most a twentieth of itself above the magnitude, so no
number of one digit below it is nearer. Of the cells that are wide enough, only that of the
second magnitude holds a power of ten above it. -/
theorem near_power_of_ten (hcode : code ≠ 0) {s : Int}
    (hlow : Format.double.low code ≤ 9 / 10 * value ⟨1, s⟩)
    (hhigh : value ⟨1, s⟩ ≤ Format.double.high code)
    (hmagnitude : Format.double.magnitude code < value ⟨1, s⟩) :
    19 / 20 * value ⟨1, s⟩ ≤ Format.double.magnitude code := by
  obtain ⟨hunits, hnext, hlt⟩ :=
    least_of_wide_cell (by decide : 10 ≤ 2 ^ Format.double.fractionBits) hlow hhigh hmagnitude
  obtain ⟨hover, hunder⟩ := near_least_magnitudes
  have hleast := least_magnitude_pos
  -- The magnitude and the next one are so many times the least.
  have hcopies {n : Nat} (hn : Format.double.units n = n) :
      Format.double.magnitude n = n * Format.double.magnitude 1 := by
    rw [Format.magnitude, Format.magnitude, hn, show Format.double.units 1 = 1 by decide]
    ring
  unfold Format.high at hhigh
  rw [hcopies hunits] at hmagnitude hhigh ⊢
  rw [hcopies hnext] at hhigh
  push_cast at hhigh
  have hone : (1 : ℚ) ≤ code := by exact_mod_cast Nat.pos_of_ne_zero hcode
  have hnine : (code : ℚ) ≤ 9 := by exact_mod_cast Nat.le_of_lt_succ hlt
  have hleastCopy := le_mul_of_one_le_left hleast.le hone
  have hmostCopy := mul_le_mul_of_nonneg_right hnine hleast.le
  obtain rfl : s = -323 := eq_of_near_least (by linarith) (by linarith)
  have hcodes : code = 1 ∨ code = 2 ∨ 3 ≤ code := by omega
  rcases hcodes with rfl | rfl | hthree
  · -- The cell of the least magnitude ends in front of the power.
    norm_num at hhigh
    linarith
  · exact_mod_cast hunder
  · -- Three times the least is behind the power.
    have hthree' : (3 : ℚ) ≤ code := by exact_mod_cast hthree
    have hcopy := mul_le_mul_of_nonneg_right hthree' hleast.le
    linarith

namespace IsShortest

variable {d : Decimal} (h : IsShortest .double code d)

include h

/-- A number of one digit on a finer grid is at most nine tenths of the power of ten. -/
theorem nearer_than_one_digit (hcode : code ≠ 0) {m : Nat} {e : Int} (he : e < d.exponent)
    (hm : Format.double.InCell code (value ⟨m, e⟩)) (hdigit : m ≤ 9)
    (hone : Format.double.InCell code (value ⟨1, d.exponent⟩)) :
    distance .double code d ≤ distance .double code ⟨m, e⟩ := by
  have hnine : value ⟨9, e⟩ = 9 * value ⟨1, e⟩ := by simp [value]
  have hbelow := value_mono hdigit e
  have hcoarser := value_one_mono (Int.add_one_le_of_lt he)
  rw [value_one_succ] at hcoarser
  have hpositive := hone.pos hcode
  refine (h.closest 1 hone).trans ?_
  rcases le_or_gt (value ⟨1, d.exponent⟩) (Format.double.magnitude code) with hle | hgt
  · rw [distance, distance, abs_of_nonpos (by linarith), abs_of_nonpos (by linarith)]
    linarith
  · have hnear := near_power_of_ten hcode (by linarith [hm.low_le]) hone.le_high hgt
    rw [distance, distance, abs_of_nonneg (by linarith), abs_of_nonpos (by linarith)]
    linarith

/-- No decimal that rounds to the code is shorter, and none of the same length is nearer. -/
theorem no_better (hcode : code ≠ 0) {m : Nat} {e : Int}
    (hm : Format.double.InCell code (value ⟨m, e⟩)) :
    (digits d.coefficient).length ≤ (digits m).length ∧
      ((digits m).length = (digits d.coefficient).length →
        distance .double code d ≤ distance .double code ⟨m, e⟩) := by
  rcases lt_trichotomy e d.exponent with hfiner | rfl | hcoarser
  · rcases h.longer_or_below_one hfiner hm with hlonger | ⟨-, hone⟩
    · exact ⟨hlonger.le, fun hsame => absurd hsame hlonger.ne'⟩
    · -- One and the coefficient are on one grid, so only a number of one digit is a rival.
      have hlength : (digits d.coefficient).length = 1 := h.length_digits_eq h.inCell hone
      rw [hlength]
      refine ⟨length_digits_pos m, fun hsame => ?_⟩
      have hdigit := lt_pow_length_digits m
      rw [hsame] at hdigit
      exact h.nearer_than_one_digit hcode hfiner hm (by omega) hone
  · exact ⟨(h.length_digits_eq h.inCell hm).le, fun _ => h.closest m hm⟩
  · exact absurd hm (h.coarsest m e hcoarser)

end IsShortest

end PathTemplate.Decimal
