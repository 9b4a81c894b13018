-- The integers that a caller supplies. Whatever the width of their type, they are widened to
-- 64 bits without a change of value, also where they may be left out, and they are written
-- in the one way that has no digit too many.
import Mathlib
import PathTemplate.Proofs.Digits
import PathTemplate.Value.Supplied

namespace PathTemplate

open Decimal (IsWhole digits)

/-! ## The text of an integer -/

/-- The text of an integer: digits with a minus in front of them if it is below zero. Only
zero begins with a zero, and has no other digit. A reader gets the integer back. -/
structure IsIntegerText (text : String) (v : Int) : Prop where
  minus_iff : '-' ∈ text.toList ↔ v < 0
  written : ∃ cs, text.toList = (if v < 0 then ['-'] else []) ++ cs ∧ IsWhole cs ∧
    (cs.head? = some '0' → v = 0)
  reads : text.toInt? = some v

namespace Value

theorem intText_eq_repr (v : Int) : intText v = v.repr := by
  unfold intText
  cases v with
  | ofNat n => rfl
  | negSucc n =>
    rw [if_pos (Int.negSucc_lt_zero n)]
    rfl

theorem toInt?_intText (v : Int) : (intText v).toInt? = some v := by
  rw [intText_eq_repr, Int.toInt?_repr]

theorem intText_inj {m n : Int} : intText m = intText n ↔ m = n := by
  constructor
  · intro h
    have hread := congrArg String.toInt? h
    rw [toInt?_intText, toInt?_intText] at hread
    exact Option.some.inj hread
  · rintro rfl
    rfl

theorem intText_natCast (n : Nat) : intText n = Nat.repr n := by
  rw [intText_eq_repr]
  rfl

theorem toList_intText (v : Int) :
    (intText v).toList = (if v < 0 then ['-'] else []) ++ digits v.natAbs := by
  unfold intText digits
  split
  · simp [Nat.repr_eq_ofList_toDigits]
  · simp [Nat.repr_eq_ofList_toDigits]

theorem isIntegerText_intText (v : Int) : IsIntegerText (intText v) v := by
  have hwhole := Decimal.isWhole_digits v.natAbs
  refine ⟨?_, ⟨_, toList_intText v, hwhole, ?_⟩, toInt?_intText v⟩
  · rw [toList_intText]
    split
    · next hneg => simp [hneg]
    · next hpos => simp [hpos, hwhole.not_mem_minus]
  · intro hhead
    by_contra hne
    exact absurd (Decimal.stops_digits (Int.natAbs_ne_zero.2 hne) '0' hhead) (by decide)

end Value

/-! ## The types of integers -/

/-- How many bits the integers of a type have. -/
inductive Width where
  | bits8
  | bits16
  | bits32
  | bits64
  /-- As many bits as an address, which are 64. -/
  | address
  deriving Repr, DecidableEq

def Width.bits : Width → Nat
  | .bits8 => 8
  | .bits16 => 16
  | .bits32 => 32
  | .bits64 => 64
  | .address => 64

/-- A type of integers, with or without negative ones. -/
inductive IntegerType where
  | signed (width : Width)
  | unsigned (width : Width)
  deriving Repr, DecidableEq

namespace IntegerType

/-- The integers of a type. -/
def Holds : IntegerType → Int → Prop
  | .signed width, v => -2 ^ (width.bits - 1) ≤ v ∧ v < 2 ^ (width.bits - 1)
  | .unsigned width, v => 0 ≤ v ∧ v < 2 ^ width.bits

instance (t : IntegerType) (v : Int) : Decidable (t.Holds v) := by
  cases t <;> unfold Holds <;> infer_instance

/-- An integer of a type, as it is supplied. -/
def supply : IntegerType → Int → Supplied
  | .signed .bits8, v => .int8 (.ofInt v)
  | .signed .bits16, v => .int16 (.ofInt v)
  | .signed .bits32, v => .int32 (.ofInt v)
  | .signed .bits64, v => .int64 (.ofInt v)
  | .signed .address, v => .int64 (.ofInt v)
  | .unsigned .bits8, v => .uint8 (.ofNat v.toNat)
  | .unsigned .bits16, v => .uint16 (.ofNat v.toNat)
  | .unsigned .bits32, v => .uint32 (.ofNat v.toNat)
  | .unsigned .bits64, v => .uint64 (.ofNat v.toNat)
  | .unsigned .address, v => .uint64 (.ofNat v.toNat)

/-- The integer that a value is, if it is of the kind that the type becomes: a signed type
becomes signed values, and an unsigned one unsigned values. -/
def integer? : IntegerType → Value → Option Int
  | .signed _, .int n => some n.toInt
  | .unsigned _, .uint n => some n.toNat
  | _, _ => none

variable {t : IntegerType} {v : Int}

theorem integer?_supply (h : t.Holds v) : t.integer? (t.supply v).toValue = some v := by
  cases t with
  | signed width =>
    obtain ⟨hlow, hhigh⟩ := h
    cases width with
    | bits8 =>
      exact congrArg some ((Int8.toInt_toInt64 _).trans (Int8.toInt_ofInt_of_le hlow hhigh))
    | bits16 =>
      exact congrArg some ((Int16.toInt_toInt64 _).trans (Int16.toInt_ofInt_of_le hlow hhigh))
    | bits32 =>
      exact congrArg some ((Int32.toInt_toInt64 _).trans (Int32.toInt_ofInt_of_le hlow hhigh))
    | bits64 => exact congrArg some (Int64.toInt_ofInt_of_le hlow hhigh)
    | address => exact congrArg some (Int64.toInt_ofInt_of_le hlow hhigh)
  | unsigned width =>
    obtain ⟨hlow, hhigh⟩ := h
    obtain ⟨n, rfl⟩ := Int.eq_ofNat_of_zero_le hlow
    have hlt : n < 2 ^ width.bits := by exact_mod_cast hhigh
    have hcast {m : Nat} (hm : m = n) : some (m : Int) = some (n : Int) := by rw [hm]
    cases width with
    | bits8 => exact hcast ((UInt8.toNat_toUInt64 _).trans (UInt8.toNat_ofNat_of_lt' hlt))
    | bits16 => exact hcast ((UInt16.toNat_toUInt64 _).trans (UInt16.toNat_ofNat_of_lt' hlt))
    | bits32 => exact hcast ((UInt32.toNat_toUInt64 _).trans (UInt32.toNat_ofNat_of_lt' hlt))
    | bits64 => exact hcast (UInt64.toNat_ofNat_of_lt' hlt)
    | address => exact hcast (UInt64.toNat_ofNat_of_lt' hlt)

theorem text_of_integer? {a : Value} (h : t.integer? a = some v) : a.text = Value.intText v := by
  cases t with
  | signed width =>
    cases a with
    | int n =>
      cases h
      rfl
    | _ => cases h
  | unsigned width =>
    cases a with
    | uint n =>
      cases h
      exact (Value.intText_natCast n.toNat).symm
    | _ => cases h

end IntegerType

/-! ## The laws -/

/-- What may be left out has the value of what is supplied, however often that is said. -/
theorem Supplied.toValue_iterate_present (depth : Nat) (s : Supplied) :
    (Supplied.present^[depth] s).toValue = s.toValue := by
  induction depth with
  | zero => rfl
  | succ depth ih =>
    rw [Function.iterate_succ_apply']
    exact ih

/-- An integer of any type keeps its value when it is supplied, alone or where it may be left
out at any number of places, and it is written in the one way without a digit too many. Where
it is left out, there is no value. -/
theorem integers_are_supplied_without_loss {t : IntegerType} {v : Int} (h : t.Holds v)
    (depth : Nat) :
    t.integer? (Supplied.present^[depth] (t.supply v)).toValue = some v ∧
      IsIntegerText (Supplied.present^[depth] (t.supply v)).toValue.text v ∧
      (Supplied.present^[depth] .nothing).toValue = .absent := by
  have hvalue := IntegerType.integer?_supply h
  rw [Supplied.toValue_iterate_present, Supplied.toValue_iterate_present]
  refine ⟨hvalue, ?_, rfl⟩
  rw [IntegerType.text_of_integer? hvalue]
  exact Value.isIntegerText_intText v

/-- The least of the signed integers has a minus, though it is the negative of none of them. -/
theorem integers_are_supplied_without_loss_at_the_least :
    (IntegerType.signed .bits64).Holds (-2 ^ 63) ∧
      IsIntegerText "-9223372036854775808" (-2 ^ 63) ∧
      (IntegerType.signed .bits64).integer?
        (Supplied.present (.present (.int64 Int64.minValue))).toValue = some (-2 ^ 63) := by
  have h : (IntegerType.signed .bits64).Holds (-2 ^ 63) := by decide
  have hsupply : (IntegerType.signed .bits64).supply (-2 ^ 63) = .int64 Int64.minValue := by
    decide
  obtain ⟨hvalue, htext, -⟩ := integers_are_supplied_without_loss h 2
  rw [hsupply] at hvalue htext
  have hwritten : (Value.int Int64.minValue).text = "-9223372036854775808" := by decide +kernel
  exact ⟨h, hwritten ▸ htext, hvalue⟩

end PathTemplate
