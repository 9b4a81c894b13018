-- The digits of numbers and the texts of decimals. A number is written in one
-- way without a zero in front, and the text of a decimal holds the digits of
-- its coefficient, with zeros in front or behind at most.
import Mathlib
import PathTemplate.Decimal.Positional
import PathTemplate.Proofs.Reading

namespace PathTemplate.Decimal

-- Powers are those of natural numbers, whatever else is imported.
attribute [local instance (high)] instPowNat

/-! ## The digits of a number -/

theorem isRun_digits (n : Nat) : IsRun Char.isDigit (digits n) :=
  ⟨Nat.toDigits_ne_nil, fun _ => Nat.isDigit_of_mem_toDigits (by decide) (by decide)⟩

theorem ofDigits_digits (n : Nat) : ofDigits (digits n) = n := Nat.ofDigitChars_ten_toDigits

theorem ofDigits_append (a b : List Char) :
    ofDigits (a ++ b) = 10 ^ b.length * ofDigits a + ofDigits b := by
  rw [ofDigits, Nat.ofDigitChars_append, Nat.ofDigitChars_eq_ofDigitChars_zero]
  rfl

theorem exists_digitChar {c : Char} (h : c.isDigit = true) : ∃ n < 10, c = n.digitChar := by
  have hbounds : 48 ≤ c.toNat ∧ c.toNat ≤ 57 := Char.isDigit_iff_toNat.1 h
  have hlt : c.toNat - 48 < 10 := by omega
  refine ⟨c.toNat - 48, hlt, Char.toNat_inj.1 ?_⟩
  rw [Nat.toNat_digitChar_of_lt_ten hlt]
  omega

theorem ofDigitChars_digitChar_cons {n : Nat} (h : n < 10) (cs : List Char) (before : Nat) :
    Nat.ofDigitChars 10 (n.digitChar :: cs) before = Nat.ofDigitChars 10 cs (10 * before + n) :=
  Nat.ofDigitChars_cons_digitChar_of_lt_ten h

/-- Digits behind those of a number other than zero are the digits of a greater number. -/
theorem digits_append {cs : List Char} (hcs : ∀ c ∈ cs, c.isDigit = true) {n : Nat} (hn : n ≠ 0) :
    digits n ++ cs = digits (Nat.ofDigitChars 10 cs n) := by
  induction cs generalizing n with
  | nil => rw [List.append_nil, Nat.ofDigitChars_nil]
  | cons c cs ih =>
    obtain ⟨d, hd, rfl⟩ := exists_digitChar (hcs c List.mem_cons_self)
    have hnext : digits n ++ [d.digitChar] = digits (10 * n + d) := by
      rw [← Nat.toDigits_of_lt_base hd]
      exact Nat.toDigits_append_toDigits (by decide) (Nat.pos_of_ne_zero hn) hd
    rw [ofDigitChars_digitChar_cons hd, ← ih (fun c hc => hcs c (List.mem_cons_of_mem _ hc))
      (by omega), ← hnext, List.append_assoc, List.singleton_append]

theorem digits_mul_pow {n : Nat} (hn : n ≠ 0) (count : Nat) :
    digits (n * 10 ^ count) = digits n ++ List.replicate count '0' := by
  have hzeros : ∀ c ∈ List.replicate count '0', c.isDigit = true := fun c hc => by
    rw [List.eq_of_mem_replicate hc]
    rfl
  rw [digits_append hzeros hn, Nat.ofDigitChars_replicate_zero, Nat.mul_comm]

/-- What is left of some digits without the zeros in front is written for their number. -/
theorem dropWhile_zeros {cs : List Char} (hcs : ∀ c ∈ cs, c.isDigit = true)
    (hne : ofDigits cs ≠ 0) : cs.dropWhile (· == '0') = digits (ofDigits cs) := by
  induction cs with
  | nil => exact absurd rfl hne
  | cons c cs ih =>
    have hrest : ∀ c ∈ cs, c.isDigit = true := fun c hc => hcs c (List.mem_cons_of_mem _ hc)
    obtain ⟨d, hd, rfl⟩ := exists_digitChar (hcs c List.mem_cons_self)
    rw [ofDigits, ofDigitChars_digitChar_cons hd, Nat.mul_zero, Nat.zero_add] at hne ⊢
    rcases Nat.eq_zero_or_pos d with rfl | hpos
    · exact ih hrest hne
    · rw [← digits_append hrest hpos.ne', digits, Nat.toDigits_of_lt_base hd,
        List.dropWhile_cons_of_neg]
      · rfl
      · rw [beq_iff_eq, Nat.digitChar_eq_zero]
        exact hpos.ne'

theorem stops_digits {n : Nat} (hn : n ≠ 0) : Stops (· == '0') (digits n) := by
  have hdrop := dropWhile_zeros (isRun_digits n).all (by rwa [ofDigits_digits])
  rw [ofDigits_digits] at hdrop
  rw [← hdrop]
  exact stops_dropWhile _ _

theorem digits_eq_if (n : Nat) : digits n =
    if n < 10 then [n.digitChar] else digits (n / 10) ++ [(n % 10).digitChar] :=
  Nat.toDigits_eq_if (by decide)

theorem getLast?_digits (n : Nat) : (digits n).getLast? = some (n % 10).digitChar := by
  rw [digits_eq_if]
  split
  · next h => rw [Nat.mod_eq_of_lt h, List.getLast?_singleton]
  · rw [List.getLast?_concat]

theorem length_digits_le_iff {n count : Nat} (hcount : 0 < count) :
    (digits n).length ≤ count ↔ n < 10 ^ count := Nat.length_toDigits_le_iff (by decide) hcount

theorem length_digits_pos (n : Nat) : 0 < (digits n).length := Nat.length_toDigits_pos

theorem lt_pow_length_digits (n : Nat) : n < 10 ^ (digits n).length :=
  (length_digits_le_iff (length_digits_pos n)).1 le_rfl

theorem length_digits_mono {m n : Nat} (h : m ≤ n) : (digits m).length ≤ (digits n).length :=
  (length_digits_le_iff (length_digits_pos n)).2 (h.trans_lt (lt_pow_length_digits n))

/-- Only a step to a number that ends in a zero can make a number longer. -/
theorem length_digits_succ {n : Nat} (h : (n + 1) % 10 ≠ 0) :
    (digits (n + 1)).length = (digits n).length := by
  rw [digits_eq_if (n + 1), digits_eq_if n]
  by_cases hlt : n + 1 < 10
  · rw [if_pos hlt, if_pos (by omega)]
    rfl
  · rw [if_neg hlt, if_neg (by omega), show (n + 1) / 10 = n / 10 by omega, List.length_append,
      List.length_append]
    rfl

/-! ## The digits that count -/

/-- The digits of a text without the zeros in front and behind. -/
def significant (cs : List Char) : List Char :=
  ((cs.filter Char.isDigit).dropWhile (· == '0')).rdropWhile (· == '0')

/-- How many digits a decimal has, from the first to the last that is no zero. -/
def significantDigits (d : Decimal) : Nat := (significant (digits d.coefficient)).length

theorem rdropWhile_zeros {n : Nat} (hn : n % 10 ≠ 0) (count : Nat) :
    (digits n ++ List.replicate count '0').rdropWhile (· == '0') = digits n := by
  induction count with
  | zero =>
    rw [List.replicate_zero, List.append_nil, List.rdropWhile_eq_self_iff]
    intro hne
    have hlast := getLast?_digits n
    rw [List.getLast?_eq_some_getLast hne, Option.some_inj] at hlast
    rw [hlast, beq_iff_eq, Nat.digitChar_eq_zero]
    exact hn
  | succ count ih =>
    rw [List.replicate_succ', ← List.append_assoc, List.rdropWhile_concat_pos _ _ _ rfl, ih]

/-- Zeros behind a number do not count. -/
theorem significant_eq {cs : List Char} {n count : Nat} (hn : n % 10 ≠ 0)
    (h : ofDigits (cs.filter Char.isDigit) = n * 10 ^ count) : significant cs = digits n := by
  have hne : n ≠ 0 := by
    rintro rfl
    exact hn rfl
  have hdigits : ∀ c ∈ cs.filter Char.isDigit, c.isDigit = true := fun c hc =>
    (List.mem_filter.1 hc).2
  rw [significant, dropWhile_zeros hdigits, h, digits_mul_pow hne, rdropWhile_zeros hn]
  rw [h]
  exact Nat.mul_ne_zero hne (Nat.pow_pos (by decide)).ne'

theorem significantDigits_eq {d : Decimal} {n count : Nat} (hn : n % 10 ≠ 0)
    (h : d.coefficient = n * 10 ^ count) : d.significantDigits = (digits n).length := by
  rw [significantDigits, significant_eq hn]
  rwa [List.filter_eq_self.2 (isRun_digits _).all, ofDigits_digits]

/-- A sign is no digit. -/
theorem significant_sign_append (negative : Bool) (cs : List Char) :
    significant ((if negative then ['-'] else []) ++ cs) = significant cs := by
  cases negative
  · rfl
  · rw [significant, if_pos rfl, List.singleton_append, List.filter_cons_of_neg (by decide)]
    rfl

/-! ## Texts without an exponent -/

/-- Digits without a zero in front, or a zero alone. -/
structure IsWhole (cs : List Char) : Prop where
  digits : IsRun Char.isDigit cs
  zero_alone : cs.head? = some '0' → cs = ['0']

/-- A number with or without a part behind the point, which does not end in a zero. -/
inductive IsPlain : List Char → Prop
  | whole {cs} : IsWhole cs → IsPlain cs
  | pointed {cs fraction} : IsWhole cs → IsRun Char.isDigit fraction →
      fraction.getLast? ≠ some '0' → IsPlain (cs ++ '.' :: fraction)

theorem isWhole_digits (n : Nat) : IsWhole (digits n) := by
  refine ⟨isRun_digits n, fun hhead => ?_⟩
  rcases Nat.eq_zero_or_pos n with rfl | hpos
  · rfl
  · exact absurd (stops_digits hpos.ne' '0' hhead) (by decide)

theorem IsWhole.not_mem_minus {cs : List Char} (h : IsWhole cs) : '-' ∉ cs := fun hmem =>
  absurd (h.digits.all _ hmem) (by decide)

theorem IsPlain.not_mem_minus {cs : List Char} (h : IsPlain cs) : '-' ∉ cs := by
  cases h with
  | whole hcs => exact hcs.not_mem_minus
  | pointed hcs hfraction _ =>
    intro hmem
    rcases List.mem_append.1 hmem with hwhole | hrest
    · exact hcs.not_mem_minus hwhole
    · rcases List.mem_cons.1 hrest with hpoint | hdigit
      · exact absurd hpoint (by decide)
      · exact absurd (hfraction.all _ hdigit) (by decide)

theorem length_paddedDigits {count n : Nat} (hcount : 0 < count) (h : n < 10 ^ count) :
    (paddedDigits count n).length = count := by
  have hle := (length_digits_le_iff hcount).2 h
  rw [paddedDigits, List.length_append, List.length_replicate]
  omega

theorem isRun_paddedDigits (count n : Nat) : IsRun Char.isDigit (paddedDigits count n) := by
  refine ⟨List.append_ne_nil_of_right_ne_nil _ (isRun_digits n).ne_nil, fun c hc => ?_⟩
  rcases List.mem_append.1 hc with hzero | hdigit
  · rw [List.eq_of_mem_replicate hzero]
    rfl
  · exact (isRun_digits n).all c hdigit

theorem ofDigits_paddedDigits (count n : Nat) : ofDigits (paddedDigits count n) = n := by
  rw [paddedDigits, ofDigits_append, ofDigits_digits, ofDigits, Nat.ofDigitChars_replicate_zero]
  simp

theorem getLast?_paddedDigits (count n : Nat) :
    (paddedDigits count n).getLast? = some (n % 10).digitChar := by
  rw [paddedDigits, List.getLast?_append, getLast?_digits, Option.some_or]

/-! ## The text of a decimal -/

theorem denominator_pos (d : Decimal) : 0 < d.denominator := Nat.pow_pos (by decide)

theorem positional_of_places_eq_zero {d : Decimal} (h : d.places = 0) :
    d.positional = digits d.numerator := by
  have hdenominator : d.denominator = 1 := by rw [denominator, ← places, h, Nat.pow_zero]
  rw [positional, if_pos h, hdenominator, Nat.div_one]

theorem positional_of_places_ne_zero {d : Decimal} (h : d.places ≠ 0) :
    d.positional = digits (d.numerator / d.denominator) ++
      '.' :: paddedDigits d.places (d.numerator % d.denominator) := by
  rw [positional, if_neg h]

theorem numerator_of_places_ne_zero {d : Decimal} (h : d.places ≠ 0) :
    d.numerator = d.coefficient := by
  have hexponent : d.exponent.toNat = 0 := by
    unfold places at h
    omega
  rw [numerator, hexponent, Nat.pow_zero, Nat.mul_one]

/-- The last digit behind the point is that of the coefficient. -/
theorem isPlain_positional {d : Decimal} (h : d.places = 0 ∨ d.coefficient % 10 ≠ 0) :
    IsPlain d.positional := by
  by_cases hplaces : d.places = 0
  · rw [positional_of_places_eq_zero hplaces]
    exact .whole (isWhole_digits _)
  · rw [positional_of_places_ne_zero hplaces]
    refine .pointed (isWhole_digits _) (isRun_paddedDigits _ _) ?_
    have hten : 10 ∣ d.denominator := dvd_pow_self 10 hplaces
    rw [getLast?_paddedDigits, Nat.mod_mod_of_dvd _ hten, numerator_of_places_ne_zero hplaces,
      Ne, Option.some_inj, Nat.digitChar_eq_zero]
    exact h.resolve_left hplaces

theorem length_fraction {d : Decimal} (h : d.places ≠ 0) :
    (paddedDigits d.places (d.numerator % d.denominator)).length = d.places :=
  length_paddedDigits (Nat.pos_of_ne_zero h) (Nat.mod_lt _ d.denominator_pos)

/-- The digits in front of the point and behind it are those of the numerator. -/
theorem ofDigits_whole_append_fraction {d : Decimal} (h : d.places ≠ 0) :
    ofDigits (digits (d.numerator / d.denominator) ++
      paddedDigits d.places (d.numerator % d.denominator)) = d.numerator := by
  rw [ofDigits_append, ofDigits_digits, ofDigits_paddedDigits, length_fraction h]
  exact Nat.div_add_mod d.numerator d.denominator

theorem filter_positional (d : Decimal) :
    ofDigits (d.positional.filter Char.isDigit) = d.numerator := by
  by_cases hplaces : d.places = 0
  · rw [positional_of_places_eq_zero hplaces, List.filter_eq_self.2 (isRun_digits _).all,
      ofDigits_digits]
  · rw [positional_of_places_ne_zero hplaces, List.filter_append,
      List.filter_eq_self.2 (isRun_digits _).all, List.filter_cons_of_neg (by decide),
      List.filter_eq_self.2 (isRun_paddedDigits _ _).all, ofDigits_whole_append_fraction hplaces]

theorem significant_positional {d : Decimal} (h : d.coefficient % 10 ≠ 0) :
    significant d.positional = digits d.coefficient :=
  significant_eq h (filter_positional d)

/-! ## Reading a text back -/

/-- The decimal without a positive exponent for the same number. -/
def writtenOut (d : Decimal) : Decimal := ⟨d.numerator, -(d.places : Int)⟩

@[simp] theorem numerator_writtenOut (d : Decimal) : d.writtenOut.numerator = d.numerator := by
  have hexponent : (-(d.places : Int)).toNat = 0 := by omega
  rw [numerator, writtenOut, hexponent, Nat.pow_zero, Nat.mul_one]

@[simp] theorem denominator_writtenOut (d : Decimal) :
    d.writtenOut.denominator = d.denominator := by
  rw [denominator, writtenOut, Int.neg_neg, Int.toNat_natCast]
  rfl

theorem ofPositional?_digits {cs : List Char} (h : IsRun Char.isDigit cs) :
    ofPositional? cs = some ⟨ofDigits cs, 0⟩ := by
  have hstops : Stops Char.isDigit [] := by simp [Stops]
  have htake := takeWhile_run h.all hstops
  have hdrop := dropWhile_run h.all hstops
  rw [List.append_nil] at htake hdrop
  rw [ofPositional?, htake, hdrop]
  simp [h.ne_nil]

theorem ofPositional?_pointed {cs fraction : List Char} (hcs : IsRun Char.isDigit cs)
    (hfraction : IsRun Char.isDigit fraction) :
    ofPositional? (cs ++ '.' :: fraction) =
      some ⟨ofDigits (cs ++ fraction), -(fraction.length : Int)⟩ := by
  have hstops : Stops Char.isDigit ('.' :: fraction) := by simp [Stops]
  have hall : fraction.all Char.isDigit = true := List.all_eq_true.2 hfraction.all
  rw [ofPositional?, takeWhile_run hcs.all hstops, dropWhile_run hcs.all hstops]
  simp [hcs.ne_nil, hfraction.ne_nil, hall]

theorem ofPositional?_positional (d : Decimal) :
    ofPositional? d.positional = some d.writtenOut := by
  by_cases hplaces : d.places = 0
  · rw [positional_of_places_eq_zero hplaces, ofPositional?_digits (isRun_digits _),
      ofDigits_digits, writtenOut, hplaces]
    rfl
  · rw [positional_of_places_ne_zero hplaces,
      ofPositional?_pointed (isRun_digits _) (isRun_paddedDigits _ _),
      ofDigits_whole_append_fraction hplaces, length_fraction hplaces, writtenOut]

/-! ## Values -/

/-- The number that a decimal stands for. -/
def value (d : Decimal) : ℚ := d.coefficient * (10 : ℚ) ^ d.exponent

theorem value_eq_div (d : Decimal) : d.value = d.numerator / d.denominator := by
  rcases Int.le_total 0 d.exponent with hpos | hneg
  · obtain ⟨n, hn⟩ := Int.eq_ofNat_of_zero_le hpos
    simp [value, numerator, denominator, hn]
  · obtain ⟨n, hn⟩ := Int.exists_eq_neg_ofNat hneg
    simp [value, numerator, denominator, hn, div_eq_mul_inv]

theorem value_writtenOut (d : Decimal) : d.writtenOut.value = d.value := by
  rw [value_eq_div, value_eq_div, numerator_writtenOut, denominator_writtenOut]

theorem value_nonneg (d : Decimal) : 0 ≤ d.value := by
  unfold value
  positivity

theorem value_zero (e : Int) : value ⟨0, e⟩ = 0 := by
  simp [value]

theorem value_mono {m n : Nat} (h : m ≤ n) (e : Int) : value ⟨m, e⟩ ≤ value ⟨n, e⟩ := by
  have hcast : (m : ℚ) ≤ n := by exact_mod_cast h
  exact mul_le_mul_of_nonneg_right hcast (by positivity)

/-- Zeros behind a number make up for steps to coarser grids. -/
theorem value_mul_pow (n k : Nat) (e : Int) : value ⟨n * 10 ^ k, e⟩ = value ⟨n, e + k⟩ := by
  simp only [value]
  rw [zpow_add₀ (by norm_num), zpow_natCast]
  push_cast
  ring

theorem value_one_mono {a b : Int} (h : a ≤ b) : value ⟨1, a⟩ ≤ value ⟨1, b⟩ := by
  simp only [value, Nat.cast_one, one_mul]
  exact zpow_le_zpow_right₀ (by norm_num) h

theorem value_one_succ (e : Int) : value ⟨1, e + 1⟩ = 10 * value ⟨1, e⟩ := by
  simp only [value]
  rw [zpow_add_one₀ (by norm_num)]
  ring

/-- The zeros behind a coefficient can go into the exponent. -/
theorem exists_without_zeros {d : Decimal} (h : d.coefficient ≠ 0) :
    ∃ n e, d.value = value ⟨n, e⟩ ∧ d.significantDigits = (digits n).length := by
  obtain ⟨count, n, hn, hcoefficient⟩ := Nat.exists_eq_pow_mul_and_not_dvd h 10 (by decide)
  rw [Nat.dvd_iff_mod_eq_zero] at hn
  rw [Nat.mul_comm] at hcoefficient
  refine ⟨n, d.exponent + count, ?_, significantDigits_eq hn hcoefficient⟩
  rw [← value_mul_pow, ← hcoefficient]

end PathTemplate.Decimal
