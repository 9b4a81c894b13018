-- The text of a floating point number. It is the text of the shortest decimal
-- for its code with the sign of the word in front. So it is read back as the
-- same word, and no number that is written with fewer digits rounds to it.
import Mathlib
import PathTemplate.Proofs.ShortestDecimal
import PathTemplate.Proofs.Words
import PathTemplate.Value

namespace PathTemplate

open Binary (Binary64 Format signed)
open Decimal (IsPlain ofPositional? shortest significant)

-- Powers are those of natural numbers, whatever else is imported.
attribute [local instance (high)] instPowNat

/-! ## The text of a finite number -/

theorem Decimal.isPlain_shortest (f : Format) (code : Nat) :
    IsPlain (shortest f code).positional := by
  apply isPlain_positional
  by_cases hcode : code = 0
  · left
    rw [shortest, if_pos hcode]
    rfl
  · right
    exact (isShortest_shortest hcode).coefficient_mod_ten

theorem Binary.Binary64.toList_text {x : Binary64} (h : x.isFinite = true) :
    x.text.toList = (if x.negative then ['-'] else []) ++ (shortest .double x.code).positional := by
  have hlt := Binary64.isFinite_iff.1 h
  have hnumber : x.isNaN = false := Binary64.isNaN_eq_false_iff.2 hlt.le
  have hbounded : x.isInfinite = false := by
    rw [Binary64.isInfinite, beq_eq_false_iff_ne]
    exact hlt.ne
  rw [Binary64.text, hnumber, hbounded]
  cases x.negative <;> simp

/-! ## The laws -/

/-- A finite number is read back from its text: the sign in front is that of the word, and the
decimal behind it rounds to the code. -/
theorem a_float_text_reads_back {x : Binary64} (h : x.isFinite = true) :
    ∃ unsigned d, (Value.float x).text.toList = (if x.negative then ['-'] else []) ++ unsigned ∧
      ('-' ∈ (Value.float x).text.toList ↔ x.negative = true) ∧ IsPlain unsigned ∧
      ofPositional? unsigned = some d ∧
      Format.double.IsNearest d.value (Format.double.nearest d.numerator d.denominator) ∧
      Binary64.ofCode x.negative (Format.double.nearest d.numerator d.denominator) = x := by
  have hplain := Decimal.isPlain_shortest .double x.code
  have hnearest := (Decimal.inCell_shortest .double x.code).isNearest (Binary64.isFinite_iff.1 h).le
  have hrounds : Format.double.nearest (shortest .double x.code).numerator
      (shortest .double x.code).denominator = x.code := by
    rw [Format.nearest_eq_iff (by decide) (Decimal.denominator_pos _), ← Decimal.value_eq_div]
    exact hnearest
  refine ⟨_, _, Binary64.toList_text h, ?_, hplain, Decimal.ofPositional?_positional _, ?_⟩
  · rw [Value.text, Binary64.toList_text h]
    cases x.negative <;> simp [hplain.not_mem_minus]
  · rw [Decimal.numerator_writtenOut, Decimal.denominator_writtenOut, hrounds,
      Decimal.value_writtenOut]
    exact ⟨hnearest, x.ofCode_negative_code⟩

/-- A tenth has no end in the binary digits, and its text is short all the same. -/
theorem a_float_text_reads_back_at_minus_a_tenth :
    (Binary64.mk 0xBFB999999999999A).isFinite = true ∧
      ∃ unsigned d, "-0.1".toList = ['-'] ++ unsigned ∧ IsPlain unsigned ∧
        ofPositional? unsigned = some d ∧
        Binary64.ofCode true (Format.double.nearest d.numerator d.denominator) =
          ⟨0xBFB999999999999A⟩ := by
  have h : (Binary64.mk 0xBFB999999999999A).isFinite = true := by decide
  have htext : (Value.float ⟨0xBFB999999999999A⟩).text = "-0.1" := by decide +kernel
  have hnegative : (Binary64.mk 0xBFB999999999999A).negative = true := by decide
  obtain ⟨unsigned, d, hsign, -, hplain, hreads, -, hword⟩ := a_float_text_reads_back h
  rw [htext, hnegative] at hsign
  rw [hnegative] at hword
  exact ⟨h, unsigned, d, hsign, hplain, hreads, hword⟩

/-- No number with fewer digits than the text rounds to the word, and none with as many digits
is nearer than the number that the text stands for. -/
theorem a_float_text_is_shortest_and_closest {x : Binary64} (hfinite : x.isFinite = true)
    (hcode : x.code ≠ 0) :
    ∃ unsigned d, (Value.float x).text.toList = (if x.negative then ['-'] else []) ++ unsigned ∧
      ofPositional? unsigned = some d ∧ x.IsNearest (signed x.negative d.value) ∧
      ∀ (negative : Bool) (other : Decimal), x.IsNearest (signed negative other.value) →
        (significant (Value.float x).text.toList).length ≤ other.significantDigits ∧
        (other.significantDigits = (significant (Value.float x).text.toList).length →
          |signed x.negative d.value - x.value| ≤ |signed negative other.value - x.value|) := by
  have hlt := Binary64.isFinite_iff.1 hfinite
  have hshortest := Decimal.isShortest_shortest (f := Format.double) hcode
  have hcell := hshortest.inCell
  have hsignificant : significant (Value.float x).text.toList =
      Decimal.digits (shortest .double x.code).coefficient := by
    rw [Value.text, Binary64.toList_text hfinite, Decimal.significant_sign_append,
      Decimal.significant_positional hshortest.coefficient_mod_ten]
  refine ⟨_, _, Binary64.toList_text hfinite, Decimal.ofPositional?_positional _, ?_, ?_⟩
  · rw [Decimal.value_writtenOut]
    exact Binary64.isNearest_of_code (hcell.pos hcode).le (hcell.isNearest hlt.le)
  intro negative other hother
  have hnonneg := other.value_nonneg
  obtain ⟨rfl, hnearest⟩ := (Binary64.isNearest_signed_iff hnonneg hcode).1 hother
  have hrival := hnearest.inCell hlt hnonneg
  obtain ⟨n, e, hvalue, hdigits⟩ :=
    Decimal.exists_without_zeros (Decimal.coefficient_pos_of_inCell hcode hrival).ne'
  rw [hvalue] at hrival ⊢
  rw [hsignificant, hdigits, Decimal.value_writtenOut, Binary64.abs_signed_sub_value,
    Binary64.abs_signed_sub_value]
  exact hshortest.no_better hcode hrival

/-- In front of two to the power of 53 the numbers are closer together than behind it. The odd
number behind it is in the middle, and goes to it. -/
theorem a_float_text_is_shortest_and_closest_at_a_power_of_two :
    (Binary64.mk 0x4340000000000000).isFinite = true ∧
      (Binary64.mk 0x4340000000000000).code ≠ 0 ∧
      (Binary64.mk 0x4340000000000000).IsNearest
        (signed false (Decimal.value ⟨9007199254740993, 0⟩)) ∧
      ∃ d, ofPositional? "9007199254740992".toList = some d ∧
        |signed false d.value - (Binary64.mk 0x4340000000000000).value| ≤
          |signed false (Decimal.value ⟨9007199254740993, 0⟩) -
            (Binary64.mk 0x4340000000000000).value| := by
  have hfinite : (Binary64.mk 0x4340000000000000).isFinite = true := by decide
  have hcode : (Binary64.mk 0x4340000000000000).code ≠ 0 := by decide
  have hpositive : (Binary64.mk 0x4340000000000000).negative = false := by decide
  have htext : (Value.float ⟨0x4340000000000000⟩).text = "9007199254740992" := by decide +kernel
  have hcell : Format.double.InCell (Binary64.mk 0x4340000000000000).code
      (Decimal.value ⟨9007199254740993, (1074 : Nat) - Format.double.unitExponent⟩) :=
    Decimal.roundsTo_iff_inCell_value.1 (by decide +kernel)
  rw [show ((1074 : Nat) : Int) - Format.double.unitExponent = 0 by decide] at hcell
  have hrival : (Binary64.mk 0x4340000000000000).IsNearest
      (signed false (Decimal.value ⟨9007199254740993, 0⟩)) :=
    Binary64.isNearest_of_code (hcell.pos hcode).le (hcell.isNearest (by decide))
  obtain ⟨unsigned, d, hsign, hreads, -, hrivals⟩ :=
    a_float_text_is_shortest_and_closest hfinite hcode
  rw [hpositive, htext] at hsign hrivals
  refine ⟨hfinite, hcode, hrival, d, ?_, (hrivals false _ hrival).2 (by decide +kernel)⟩
  rwa [hsign]

end PathTemplate
