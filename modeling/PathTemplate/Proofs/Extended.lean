-- What floating point words stand for. That is a number with a sign, one of two infinities, or
-- no number. The test of two words for equality compares what they stand for, and takes no
-- notice of the sign of a zero.
import Mathlib
import PathTemplate.Proofs.Equality
import PathTemplate.Proofs.Words

namespace PathTemplate.Binary

-- Powers are those of natural numbers, whatever else is imported.
attribute [local instance (high)] instPowNat

/-- What a word stands for. A zero has a sign, too. -/
inductive Extended where
  | finite (negative : Bool) (magnitude : ℚ)
  | infinite (negative : Bool)
  | notANumber

/-- Equality as numbers. The two zeros are equal, and what is not a number equals nothing. -/
def Extended.Equal : Extended → Extended → Prop
  | .finite a p, .finite b q => signed a p = signed b q
  | .infinite a, .infinite b => a = b
  | _, _ => False

theorem signed_eq_signed_iff {a b : Bool} {p q : ℚ} (hp : 0 ≤ p) (hq : 0 ≤ q) :
    signed a p = signed b q ↔ a = b ∧ p = q ∨ p = 0 ∧ q = 0 := by
  by_cases h : a = b
  · subst h
    have hsame := abs_signed_sub_signed a p q
    constructor
    · intro heq
      rw [heq, sub_self, abs_zero] at hsame
      exact Or.inl ⟨rfl, sub_eq_zero.1 (abs_eq_zero.1 hsame.symm)⟩
    · rintro (⟨-, rfl⟩ | ⟨rfl, rfl⟩)
      · rfl
      · rfl
  · have hother := abs_signed_sub_other h hp hq
    constructor
    · intro heq
      rw [heq, sub_self, abs_zero] at hother
      exact Or.inr ⟨by linarith, by linarith⟩
    · rintro (⟨hab, -⟩ | ⟨rfl, rfl⟩)
      · exact absurd hab h
      · rwa [add_zero, abs_eq_zero, sub_eq_zero] at hother

namespace Format

variable {f : Format} {code : Nat}

/-- What the word with this sign and this code stands for. -/
def extended (f : Format) (negative : Bool) (code : Nat) : Extended :=
  if code < f.infinity then .finite negative (f.magnitude code)
  else if code = f.infinity then .infinite negative
  else .notANumber

theorem extended_of_lt (negative : Bool) (h : code < f.infinity) :
    f.extended negative code = .finite negative (f.magnitude code) := if_pos h

theorem extended_infinity (f : Format) (negative : Bool) :
    f.extended negative f.infinity = .infinite negative := by
  unfold extended
  rw [if_neg (lt_irrefl _), if_pos rfl]

theorem extended_of_gt (negative : Bool) (h : f.infinity < code) :
    f.extended negative code = .notANumber := by
  unfold extended
  rw [if_neg h.not_gt, if_neg h.ne']

theorem magnitude_eq_zero_iff : f.magnitude code = 0 ↔ code = 0 := by
  rw [← f.magnitude_zero]
  exact f.magnitude_strictMono.injective.eq_iff

/-- Equality as numbers, told by the two parts of the words. -/
theorem equal_extended_iff (hpos : 0 < f.infinity) {a b : Bool} {c d : Nat} :
    (f.extended a c).Equal (f.extended b d) ↔
      c ≤ f.infinity ∧ d ≤ f.infinity ∧ (a = b ∧ c = d ∨ c = 0 ∧ d = 0) := by
  rcases lt_trichotomy c f.infinity with hc | rfl | hc
  · rw [extended_of_lt a hc]
    rcases lt_trichotomy d f.infinity with hd | rfl | hd
    · rw [extended_of_lt b hd, Extended.Equal,
        signed_eq_signed_iff (f.magnitude_nonneg c) (f.magnitude_nonneg d),
        f.magnitude_strictMono.injective.eq_iff, magnitude_eq_zero_iff, magnitude_eq_zero_iff]
      simp [hc.le, hd.le]
    · simp [extended_infinity, Extended.Equal, hc.ne, hpos.ne']
    · simp [extended_of_gt b hd, Extended.Equal, hd.not_ge]
  · rw [extended_infinity]
    rcases lt_trichotomy d f.infinity with hd | rfl | hd
    · simp [extended_of_lt b hd, Extended.Equal, hd.ne', hpos.ne']
    · simp [extended_infinity, Extended.Equal, hpos.ne']
    · simp [extended_of_gt b hd, Extended.Equal, hd.not_ge]
  · simp [extended_of_gt a hc, Extended.Equal, hc.not_ge]

end Format

/-! ## Words of 64 bits -/

namespace Binary64

def extended (x : Binary64) : Extended := Format.double.extended x.negative x.code

theorem eq_iff_sign_and_code {x y : Binary64} :
    x = y ↔ x.negative = y.negative ∧ x.code = y.code := by
  constructor
  · rintro rfl
    exact ⟨rfl, rfl⟩
  · rintro ⟨hsign, hcode⟩
    rw [← ofCode_negative_code x, hsign, hcode, ofCode_negative_code]

theorem equals_iff_equal {x y : Binary64} : x.equals y = true ↔ x.extended.Equal y.extended := by
  unfold extended
  rw [equals_iff, Format.equal_extended_iff (by decide), isNaN_eq_false_iff, isNaN_eq_false_iff,
    eq_iff_sign_and_code]

end Binary64

/-! ## Words of 32 bits -/

namespace Binary32

def extended (x : Binary32) : Extended := Format.single.extended x.negative x.code

/-- The word with this sign and this code. -/
def ofCode (negative : Bool) (code : Nat) : Binary32 :=
  ⟨UInt32.ofNat (if negative then Format.single.signWeight + code else code)⟩

theorem code_lt (x : Binary32) : x.code < Format.single.signWeight :=
  Nat.mod_lt _ (Nat.two_pow_pos _)

theorem ofCode_negative_code (x : Binary32) : ofCode x.negative x.code = x := by
  have hweight : Format.single.signWeight + Format.single.signWeight = UInt32.size := by decide
  have hparts := Format.single.signWeight_add_mod (hweight ▸ x.bits.toNat_lt_size)
  unfold ofCode negative code
  simp only [decide_eq_true_eq]
  rw [hparts, UInt32.ofNat_toNat]

theorem eq_iff_sign_and_code {x y : Binary32} :
    x = y ↔ x.negative = y.negative ∧ x.code = y.code := by
  constructor
  · rintro rfl
    exact ⟨rfl, rfl⟩
  · rintro ⟨hsign, hcode⟩
    rw [← ofCode_negative_code x, hsign, hcode, ofCode_negative_code]

theorem isNaN_eq_false_iff {x : Binary32} : x.isNaN = false ↔ x.code ≤ Format.single.infinity := by
  unfold isNaN
  rw [decide_eq_false_iff_not, not_lt]

theorem isFinite_iff {x : Binary32} : x.isFinite = true ↔ x.code < Format.single.infinity := by
  unfold isFinite
  rw [decide_eq_true_eq]

theorem equals_iff {x y : Binary32} :
    x.equals y = true ↔
      x.isNaN = false ∧ y.isNaN = false ∧ (x = y ∨ x.code = 0 ∧ y.code = 0) := by
  have hbits : x.bits = y.bits ↔ x = y := by
    cases x
    cases y
    simp
  unfold equals
  simp only [Bool.and_eq_true, Bool.or_eq_true, Bool.not_eq_true', beq_iff_eq, hbits, and_assoc]

theorem equals_iff_equal {x y : Binary32} : x.equals y = true ↔ x.extended.Equal y.extended := by
  unfold extended
  rw [equals_iff, Format.equal_extended_iff (by decide), isNaN_eq_false_iff, isNaN_eq_false_iff,
    eq_iff_sign_and_code]

end Binary32

end PathTemplate.Binary
