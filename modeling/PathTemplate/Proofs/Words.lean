-- The numbers that words stand for, and rounding to the nearest word. The sign
-- bit and the code of a word can be taken apart and put together again, and a
-- number rounds to a word when its sign is that of the word and its magnitude
-- rounds to the code.
import Mathlib
import PathTemplate.Binary.Word
import PathTemplate.Proofs.Rounding

namespace PathTemplate.Binary

-- Powers are those of natural numbers, whatever else is imported.
attribute [local instance (high)] instPowNat

/-! ## Signs -/

/-- A number with a sign in front. -/
def signed (negative : Bool) (q : ℚ) : ℚ := if negative then -q else q

theorem abs_signed_sub_signed (negative : Bool) (p q : ℚ) :
    |signed negative p - signed negative q| = |p - q| := by
  cases negative
  · rfl
  · rw [signed, signed, if_pos rfl, if_pos rfl, neg_sub_neg, abs_sub_comm]

theorem abs_signed_sub_other {a b : Bool} (h : a ≠ b) {p q : ℚ} (hp : 0 ≤ p) (hq : 0 ≤ q) :
    |signed a p - signed b q| = p + q := by
  have hsum : |p + q| = p + q := abs_of_nonneg (add_nonneg hp hq)
  have hneg : -p - q = -(p + q) := by ring
  cases a <;> cases b
  · exact absurd rfl h
  · rwa [signed, signed, if_pos rfl, if_neg Bool.false_ne_true, sub_neg_eq_add]
  · rwa [signed, signed, if_pos rfl, if_neg Bool.false_ne_true, hneg, abs_neg]
  · exact absurd rfl h

/-- A sign that differs never makes a number nearer. -/
theorem abs_sub_le_abs_signed_sub (a b : Bool) {p q : ℚ} (hp : 0 ≤ p) (hq : 0 ≤ q) :
    |p - q| ≤ |signed a p - signed b q| := by
  by_cases h : a = b
  · rw [h, abs_signed_sub_signed]
  · rw [abs_signed_sub_other h hp hq, abs_sub_le_iff]
    constructor <;> linarith

/-! ## The two parts of a word -/

/-- A word is put together again from its sign bit and what stands below it. -/
theorem Format.signWeight_add_mod (f : Format) {n : Nat} (h : n < f.signWeight + f.signWeight) :
    (if f.signWeight ≤ n then f.signWeight + n % f.signWeight else n % f.signWeight) = n := by
  split
  · next hle => rw [Nat.mod_eq_sub_mod hle, Nat.mod_eq_of_lt (by omega), Nat.add_sub_cancel' hle]
  · next hlt => exact Nat.mod_eq_of_lt (not_le.1 hlt)

namespace Binary64

theorem infinity_lt_signWeight : Format.double.infinity < Format.double.signWeight := by decide

theorem toNat_ofCode (negative : Bool) {code : Nat} (h : code < Format.double.signWeight) :
    (ofCode negative code).bits.toNat =
      if negative then Format.double.signWeight + code else code := by
  have hweight : Format.double.signWeight + Format.double.signWeight = UInt64.size := by decide
  rw [ofCode, UInt64.toNat_ofNat_of_lt']
  split <;> omega

@[simp] theorem code_ofCode (negative : Bool) {code : Nat} (h : code < Format.double.signWeight) :
    (ofCode negative code).code = code := by
  rw [Binary64.code, toNat_ofCode negative h]
  split
  · rw [Nat.add_mod_left, Nat.mod_eq_of_lt h]
  · exact Nat.mod_eq_of_lt h

@[simp] theorem negative_ofCode (negative : Bool) {code : Nat}
    (h : code < Format.double.signWeight) : (ofCode negative code).negative = negative := by
  rw [Binary64.negative, toNat_ofCode negative h]
  cases negative
  · simpa using h
  · simp

/-- The sign bit and the code are all of a word. -/
theorem ofCode_negative_code (x : Binary64) : ofCode x.negative x.code = x := by
  have hweight : Format.double.signWeight + Format.double.signWeight = UInt64.size := by decide
  have hparts := Format.double.signWeight_add_mod (hweight ▸ x.bits.toNat_lt_size)
  unfold ofCode negative code
  simp only [decide_eq_true_eq]
  rw [hparts, UInt64.ofNat_toNat]

theorem isNaN_eq_false_iff {x : Binary64} : x.isNaN = false ↔ x.code ≤ Format.double.infinity := by
  rw [isNaN, decide_eq_false_iff_not, not_lt]

theorem isFinite_iff {x : Binary64} : x.isFinite = true ↔ x.code < Format.double.infinity := by
  rw [isFinite, decide_eq_true_eq]

/-! ## The nearest word -/

/-- The number that a word stands for. The infinite ones get the number that would come next
on their side. -/
def value (x : Binary64) : ℚ := signed x.negative (Format.double.magnitude x.code)

/-- No word stands for a number that is nearer, and where another number is as near, the word
is even. -/
structure IsNearest (q : ℚ) (x : Binary64) : Prop where
  isNumber : x.isNaN = false
  closest : ∀ y : Binary64, y.isNaN = false → |q - x.value| ≤ |q - y.value|
  even_of_tie : ∀ y : Binary64, y.isNaN = false → y.value ≠ x.value →
    |q - x.value| = |q - y.value| → x.code % 2 = 0

theorem value_ofCode (negative : Bool) {code : Nat} (h : code ≤ Format.double.infinity) :
    (ofCode negative code).value = signed negative (Format.double.magnitude code) := by
  have hlt := h.trans_lt infinity_lt_signWeight
  rw [value, negative_ofCode negative hlt, code_ofCode negative hlt]

theorem abs_signed_sub_value (x : Binary64) (q : ℚ) :
    |signed x.negative q - x.value| = |q - Format.double.magnitude x.code| :=
  abs_signed_sub_signed x.negative q _

theorem isNaN_ofCode (negative : Bool) {code : Nat} (h : code ≤ Format.double.infinity) :
    (ofCode negative code).isNaN = false := by
  rw [isNaN_eq_false_iff, code_ofCode negative (h.trans_lt infinity_lt_signWeight)]
  exact h

section Signed

variable {x : Binary64} {negative : Bool} {q : ℚ}

/-- Zero is nearer to a number than a word on the other side of it. -/
theorem IsNearest.negative_eq (h : x.IsNearest (signed negative q)) (hq : 0 ≤ q)
    (hcode : x.code ≠ 0) : negative = x.negative := by
  by_contra hother
  have hmagnitude := Format.double.magnitude_strictMono (Nat.pos_of_ne_zero hcode)
  have hzero := h.closest (ofCode negative 0) (isNaN_ofCode negative (Nat.zero_le _))
  rw [Format.magnitude_zero] at hmagnitude
  rw [value_ofCode negative (Nat.zero_le _), Format.magnitude_zero, abs_signed_sub_signed, sub_zero,
    abs_of_nonneg hq, value, abs_signed_sub_other hother hq hmagnitude.le] at hzero
  linarith

/-- The other words of the same sign are as far apart as their codes. -/
theorem IsNearest.code (h : x.IsNearest (signed x.negative q)) :
    Format.double.IsNearest q x.code := by
  have hdistance {other : Nat} (hother : other ≤ Format.double.infinity) :
      |signed x.negative q - (ofCode x.negative other).value| =
        |q - Format.double.magnitude other| := by
    rw [value_ofCode x.negative hother, abs_signed_sub_signed]
  refine ⟨isNaN_eq_false_iff.1 h.isNumber, fun other hother => ?_, fun other hother hne htie => ?_⟩
  · rw [← abs_signed_sub_value, ← hdistance hother]
    exact h.closest _ (isNaN_ofCode _ hother)
  · rw [← abs_signed_sub_value, ← hdistance hother] at htie
    refine h.even_of_tie _ (isNaN_ofCode _ hother) (fun hvalue => hne ?_) htie
    have hsame := abs_signed_sub_signed x.negative (Format.double.magnitude other)
      (Format.double.magnitude x.code)
    rw [← value_ofCode x.negative hother, hvalue, value, sub_self, abs_zero] at hsame
    exact Format.double.magnitude_strictMono.injective (sub_eq_zero.1 (abs_eq_zero.1 hsame.symm))

/-- A word on the other side of zero is as near as the word itself only if it is zero. -/
theorem isNearest_of_code (hq : 0 ≤ q) (h : Format.double.IsNearest q x.code) :
    x.IsNearest (signed x.negative q) := by
  refine ⟨isNaN_eq_false_iff.2 h.le_infinity, fun y hy => ?_, fun y hy hne htie => ?_⟩
  · rw [abs_signed_sub_value]
    exact (h.closest y.code (isNaN_eq_false_iff.1 hy)).trans
      (abs_sub_le_abs_signed_sub _ _ hq (Format.double.magnitude_nonneg _))
  rw [abs_signed_sub_value] at htie
  by_cases hsign : y.negative = x.negative
  · rw [value, hsign, abs_signed_sub_signed] at htie
    refine h.even_of_tie _ (isNaN_eq_false_iff.1 hy) (fun hcode => hne ?_) htie
    rw [value, value, hsign, hcode]
  · -- The word is no nearer than zero then, so it ties with zero, too.
    have hmagnitude := Format.double.magnitude_nonneg y.code
    have hzero := h.closest 0 (Nat.zero_le _)
    rw [value, abs_signed_sub_other (Ne.symm hsign) hq hmagnitude] at htie
    have hdistance : |q - Format.double.magnitude 0| = q := by
      rw [Format.magnitude_zero, sub_zero, abs_of_nonneg hq]
    rw [hdistance] at hzero
    by_cases hcode : x.code = 0
    · rw [hcode]
    · refine h.even_of_tie 0 (Nat.zero_le _) (Ne.symm hcode) ?_
      rw [hdistance]
      linarith

theorem isNearest_signed_iff (hq : 0 ≤ q) (hcode : x.code ≠ 0) :
    x.IsNearest (signed negative q) ↔
      negative = x.negative ∧ Format.double.IsNearest q x.code := by
  refine ⟨fun h => ?_, ?_⟩
  · obtain rfl := h.negative_eq hq hcode
    exact ⟨rfl, h.code⟩
  · rintro ⟨rfl, h⟩
    exact isNearest_of_code hq h

end Signed

end Binary64

end PathTemplate.Binary
