-- What the text of a value tells. Values of one kind with the same text are the same value,
-- but that all floats that are not a number have one text. So on values of one kind the texts
-- and equality disagree about the two zeros and about what is not a number, and nowhere else.
import Mathlib
import PathTemplate.Proofs.Extended
import PathTemplate.Proofs.FloatText
import PathTemplate.Proofs.Integers
import PathTemplate.Proofs.PartialEquality

namespace PathTemplate

open Binary (Binary64 Format)

/-! ## Reading a text with a sign -/

namespace Decimal

/-- Reads the text of a number: a minus or none, and the decimal behind it. -/
def readSigned? : List Char → Option (Bool × Decimal)
  | '-' :: cs => (ofPositional? cs).map fun d => (true, d)
  | cs => (ofPositional? cs).map fun d => (false, d)

theorem readSigned?_sign_append {cs : List Char} {d : Decimal} (negative : Bool)
    (hminus : '-' ∉ cs) (h : ofPositional? cs = some d) :
    readSigned? ((if negative then ['-'] else []) ++ cs) = some (negative, d) := by
  cases negative with
  | true =>
    change (ofPositional? cs).map _ = _
    rw [h]
    rfl
  | false =>
    change readSigned? cs = _
    unfold readSigned?
    split
    · exact absurd List.mem_cons_self hminus
    · rw [h]
      rfl

/-- The decimal of a code has the code for its nearest one. -/
theorem isNearest_shortest {f : Format} {code : Nat} (h : code ≤ f.infinity) :
    f.IsNearest (shortest f code).writtenOut.value code := by
  rw [value_writtenOut]
  exact (inCell_shortest f code).isNearest h

end Decimal

/-! ## The texts of floats -/

namespace Binary.Binary64

open Decimal (readSigned? shortest)

variable {x y : Binary64}

theorem readSigned?_text (h : x.isFinite = true) :
    readSigned? x.text.toList = some (x.negative, (shortest .double x.code).writtenOut) := by
  rw [toList_text h]
  have hplain := Decimal.isPlain_shortest .double x.code
  exact Decimal.readSigned?_sign_append _ hplain.not_mem_minus (Decimal.ofPositional?_positional _)

theorem isFinite_eq_false_of_isNaN (h : x.isNaN = true) : x.isFinite = false := by
  unfold isNaN at h
  unfold isFinite
  exact decide_eq_false (not_lt.2 (of_decide_eq_true h).le)

theorem code_eq_infinity (hfinite : x.isFinite = false) (hnumber : x.isNaN = false) :
    x.code = Format.double.infinity := by
  unfold isFinite at hfinite
  exact le_antisymm (isNaN_eq_false_iff.1 hnumber) (not_lt.1 (of_decide_eq_false hfinite))

theorem text_of_not_finite (h : x.isFinite = false) :
    x.text = if x.isNaN then "NaN" else if x.negative then "-inf" else "inf" := by
  unfold text
  cases hnan : x.isNaN with
  | true => rfl
  | false =>
    have hinfinite : x.isInfinite = true := beq_iff_eq.2 (code_eq_infinity h hnan)
    rw [hinfinite]
    cases x.negative <;> rfl

/-- What is not finite is written as a word, which is no decimal. -/
theorem readSigned?_text_eq_none (h : x.isFinite = false) : readSigned? x.text.toList = none := by
  rw [text_of_not_finite h]
  cases x.isNaN with
  | true =>
    rw [if_pos rfl]
    decide
  | false => cases x.negative <;> decide

theorem eq_of_text_eq (hx : x.isFinite = true) (hy : y.isFinite = true) (h : x.text = y.text) :
    x = y := by
  have hread := readSigned?_text hx
  rw [h, readSigned?_text hy, Option.some_inj, Prod.mk.injEq] at hread
  obtain ⟨hsign, hdecimal⟩ := hread
  have hx' := Decimal.isNearest_shortest (isFinite_iff.1 hx).le
  have hy' := Decimal.isNearest_shortest (isFinite_iff.1 hy).le
  rw [hdecimal] at hy'
  exact eq_iff_sign_and_code.2 ⟨hsign.symm, hx'.unique hy'⟩

theorem eq_or_isNaN_of_text_eq (hx : x.isFinite = false) (hy : y.isFinite = false)
    (h : x.text = y.text) : x = y ∨ x.isNaN = true ∧ y.isNaN = true := by
  rw [text_of_not_finite hx, text_of_not_finite hy] at h
  cases hx' : x.isNaN with
  | true =>
    cases hy' : y.isNaN with
    | true => exact Or.inr ⟨rfl, rfl⟩
    | false => cases hsign : y.negative <;> simp [hx', hy', hsign] at h
  | false =>
    cases hy' : y.isNaN with
    | true => cases hsign : x.negative <;> simp [hx', hy', hsign] at h
    | false =>
      have hsign : x.negative = y.negative := by
        cases hsign : x.negative <;> cases hsign' : y.negative <;>
          simp [hx', hy', hsign, hsign'] at h ⊢
      have hcode := (code_eq_infinity hx hx').trans (code_eq_infinity hy hy').symm
      exact Or.inl (eq_iff_sign_and_code.2 ⟨hsign, hcode⟩)

/-- The text of a float holds all of its bits, unless it is not a number. -/
theorem text_eq_iff : x.text = y.text ↔ x = y ∨ x.isNaN = true ∧ y.isNaN = true := by
  constructor
  · intro h
    have hread := congrArg (fun s => readSigned? s.toList) h
    cases hx : x.isFinite with
    | true =>
      cases hy : y.isFinite with
      | true => exact Or.inl (eq_of_text_eq hx hy h)
      | false => simp [readSigned?_text hx, readSigned?_text_eq_none hy] at hread
    | false =>
      cases hy : y.isFinite with
      | true => simp [readSigned?_text hy, readSigned?_text_eq_none hx] at hread
      | false => exact eq_or_isNaN_of_text_eq hx hy h
  · rintro (rfl | ⟨hx, hy⟩)
    · rfl
    · rw [text_of_not_finite (isFinite_eq_false_of_isNaN hx), if_pos hx,
        text_of_not_finite (isFinite_eq_false_of_isNaN hy), if_pos hy]

end Binary.Binary64

/-! ## The texts of values -/

namespace Value

variable {a b : Value}

theorem isNaN_float_iff {x : Binary64} : IsNaN (.float x) ↔ x.isNaN = true := by
  unfold IsNaN
  constructor
  · rintro ⟨y, hy, hnan⟩
    cases hy
    exact hnan
  · intro hnan
    exact ⟨x, rfl, hnan⟩

theorem text_eq_iff (h : a.kind = b.kind) : a.text = b.text ↔ a = b ∨ a.IsNaN ∧ b.IsNaN := by
  cases a with
  | string s =>
    cases b with
    | string t => simp [text, IsNaN]
    | _ => cases h
  | int m =>
    cases b with
    | int n => simp [text, IsNaN, intText_inj, Int64.toInt_inj]
    | _ => cases h
  | uint m =>
    cases b with
    | uint n => simp [text, IsNaN, Nat.repr_inj, UInt64.toNat_inj]
    | _ => cases h
  | float x =>
    cases b with
    | float y => rw [isNaN_float_iff, isNaN_float_iff, float.injEq, text, text, Binary64.text_eq_iff]
    | _ => cases h
  | bool c =>
    cases b with
    | bool d => cases c <;> cases d <;> simp [text, IsNaN]
    | _ => cases h
  | absent =>
    cases b with
    | absent => simp
    | _ => cases h

theorem IsZero.exists_eq_ofCode (h : a.IsZero) : ∃ negative, a = .float (.ofCode negative 0) := by
  obtain ⟨x, rfl, hcode⟩ := h
  refine ⟨x.negative, ?_⟩
  rw [← hcode, Binary64.ofCode_negative_code]

theorem isZero_ofCode_zero (negative : Bool) : IsZero (.float (.ofCode negative 0)) :=
  ⟨_, rfl, Binary64.code_ofCode negative (Nat.two_pow_pos _)⟩

theorem ofCode_zero_inj {c d : Bool} (h : Binary64.ofCode c 0 = .ofCode d 0) : c = d := by
  have hsign := congrArg Binary64.negative h
  rwa [Binary64.negative_ofCode c (Nat.two_pow_pos _),
    Binary64.negative_ofCode d (Nat.two_pow_pos _)] at hsign

/-- Of equal values only the two zeros are written in two ways. -/
theorem exists_zeros_iff (h : a.kind = b.kind) :
    a.equals b = true ∧ a.text ≠ b.text ↔
      ∃ negative, a = .float (.ofCode negative 0) ∧ b = .float (.ofCode (!negative) 0) := by
  constructor
  · rintro ⟨hequal, htext⟩
    rcases equals_iff.1 hequal with ⟨rfl, -⟩ | ⟨ha, hb⟩
    · exact absurd rfl htext
    · obtain ⟨c, rfl⟩ := ha.exists_eq_ofCode
      obtain ⟨d, rfl⟩ := hb.exists_eq_ofCode
      have hdiffer : d ≠ c := by
        rintro rfl
        exact htext rfl
      exact ⟨c, rfl, by rw [Bool.eq_not_of_ne hdiffer]⟩
  · rintro ⟨negative, rfl, rfl⟩
    have hzero := isZero_ofCode_zero negative
    refine ⟨equals_of_isZero hzero (isZero_ofCode_zero _), ?_⟩
    rw [Ne, text_eq_iff h, not_or]
    constructor
    · intro heq
      cases negative <;> cases ofCode_zero_inj (float.inj heq)
    · rintro ⟨hnan, -⟩
      exact hzero.not_isNaN hnan

/-- Of what is written alike only what is not a number differs. -/
theorem both_isNaN_iff (h : a.kind = b.kind) :
    a.text = b.text ∧ a.equals b = false ↔ a.IsNaN ∧ b.IsNaN := by
  rw [text_eq_iff h]
  constructor
  · rintro ⟨rfl | hnan, hdiffer⟩
    · have hnan : a.IsNaN := by
        by_contra hnumber
        rw [equals_self hnumber] at hdiffer
        cases hdiffer
      exact ⟨hnan, hnan⟩
    · exact hnan
  · rintro ⟨ha, hb⟩
    refine ⟨Or.inr ⟨ha, hb⟩, ?_⟩
    by_contra hequal
    exact not_isNaN_of_equals (Bool.eq_true_of_not_eq_false hequal) ha

end Value

/-! ## The law -/

/-- Two values of one kind have the same text exactly if they are the same value, where all that
is not a number counts as one. So what is equal is written alike and what is written alike is
equal, but that the two zeros are equal and differ in their signs, and that what is not a number
is written alike and differs. -/
theorem texts_of_one_kind_tell_values_apart {a b : Value} (h : a.kind = b.kind) :
    (a.text = b.text ↔ a = b ∨ a.IsNaN ∧ b.IsNaN) ∧
      (a.equals b = true ∧ a.text ≠ b.text ↔
        ∃ negative, a = .float (.ofCode negative 0) ∧ b = .float (.ofCode (!negative) 0)) ∧
      (a.text = b.text ∧ a.equals b = false ↔ a.IsNaN ∧ b.IsNaN) :=
  ⟨Value.text_eq_iff h, Value.exists_zeros_iff h, Value.both_isNaN_iff h⟩

/-- The two floats beside two to the power of 53 have a whole number between them, which is
neither of them, and are still written apart. The two zeros are equal and written apart. -/
theorem texts_of_one_kind_tell_values_apart_beside_a_gap :
    (Value.float ⟨0x4340000000000000⟩).kind = (Value.float ⟨0x4340000000000001⟩).kind ∧
      (Value.float ⟨0x4340000000000000⟩).text ≠ (Value.float ⟨0x4340000000000001⟩).text ∧
      (Value.float (.ofCode false 0)).kind = (Value.float (.ofCode true 0)).kind ∧
      (Value.float (.ofCode false 0)).text ≠ (Value.float (.ofCode true 0)).text := by
  have hkind : (Value.float ⟨0x4340000000000000⟩).kind = (Value.float ⟨0x4340000000000001⟩).kind :=
    rfl
  have hzeros : (Value.float (.ofCode false 0)).kind = (Value.float (.ofCode true 0)).kind := rfl
  refine ⟨hkind, ?_, hzeros, ?_⟩
  · rw [Ne, (texts_of_one_kind_tell_values_apart hkind).1, Value.isNaN_float_iff,
      Value.isNaN_float_iff]
    decide
  · exact ((texts_of_one_kind_tell_values_apart hzeros).2.1.2 ⟨false, rfl, rfl⟩).2

end PathTemplate
