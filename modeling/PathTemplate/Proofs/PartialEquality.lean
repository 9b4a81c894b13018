-- Equality as a relation. Equality of values is symmetric and transitive, and all values are
-- equal to themselves but those that are not a number. Params are equal when each key is
-- bound alike in both, so their equality has the same laws.
import Mathlib
import PathTemplate.Proofs.Equality
import PathTemplate.Proofs.Words

namespace PathTemplate

open Binary (Binary64)

/-- A test that is symmetric and transitive, and that holds of a thing and itself where the
thing is regular. -/
structure IsPartialEquality {α : Type} (test : α → α → Bool) (regular : α → Prop) : Prop where
  symm : ∀ a b, test a b = true → test b a = true
  trans : ∀ a b c, test a b = true → test b c = true → test a c = true
  self_iff : ∀ a, test a a = true ↔ regular a

/-! ## Values -/

theorem Binary.Binary64.isNaN_of_code_eq_zero {x : Binary64} (h : x.code = 0) :
    x.isNaN = false := by
  rw [isNaN_eq_false_iff, h]
  exact Nat.zero_le _

namespace Value

/-- What sort of thing a value is. -/
inductive Kind where
  | string
  | int
  | uint
  | float
  | bool
  | absent
  deriving Repr, DecidableEq

def kind : Value → Kind
  | .string _ => .string
  | .int _ => .int
  | .uint _ => .uint
  | .float _ => .float
  | .bool _ => .bool
  | .absent => .absent

/-- A floating point value that is not a number. -/
def IsNaN (v : Value) : Prop := ∃ x, v = .float x ∧ x.isNaN = true

/-- One of the two zeros of floating point values. -/
def IsZero (v : Value) : Prop := ∃ x, v = .float x ∧ x.code = 0

theorem IsZero.not_isNaN {v : Value} (h : v.IsZero) : ¬ v.IsNaN := by
  obtain ⟨x, rfl, hzero⟩ := h
  rintro ⟨y, hy, hnan⟩
  cases hy
  rw [Binary64.isNaN_of_code_eq_zero hzero] at hnan
  cases hnan

theorem not_isNaN_of_equals {a b : Value} (h : a.equals b = true) : ¬ a.IsNaN := by
  rintro ⟨x, rfl, hnan⟩
  cases b with
  | float y =>
    obtain ⟨hnumber, -⟩ := Binary64.equals_iff.1 h
    rw [hnumber] at hnan
    cases hnan
  | _ => cases h

theorem equals_self {a : Value} (h : ¬ a.IsNaN) : a.equals a = true := by
  cases a with
  | string s => exact beq_self_eq_true s
  | int n => exact beq_self_eq_true n
  | uint n => exact beq_self_eq_true n
  | float x =>
    have hnumber : x.isNaN = false := by
      by_contra hnan
      exact h ⟨x, rfl, Bool.eq_true_of_not_eq_false hnan⟩
    exact Binary64.equals_iff.2 ⟨hnumber, hnumber, Or.inl rfl⟩
  | bool b => exact beq_self_eq_true b
  | absent => rfl

theorem equals_of_isZero {a b : Value} (ha : a.IsZero) (hb : b.IsZero) : a.equals b = true := by
  obtain ⟨x, rfl, hx⟩ := ha
  obtain ⟨y, rfl, hy⟩ := hb
  apply Binary64.equals_iff.2
  exact ⟨Binary64.isNaN_of_code_eq_zero hx, Binary64.isNaN_of_code_eq_zero hy, Or.inr ⟨hx, hy⟩⟩

/-- Equality in full: the same value, if it is a number or no float at all, or two zeros. -/
theorem equals_iff {a b : Value} :
    a.equals b = true ↔ a = b ∧ ¬ a.IsNaN ∨ a.IsZero ∧ b.IsZero := by
  constructor
  · intro h
    rcases eq_or_zeros_of_equals h with heq | ⟨x, y, rfl, rfl, hx, hy⟩
    · exact Or.inl ⟨heq, not_isNaN_of_equals h⟩
    · exact Or.inr ⟨⟨x, rfl, hx⟩, ⟨y, rfl, hy⟩⟩
  · rintro (⟨rfl, hnumber⟩ | ⟨ha, hb⟩)
    · exact equals_self hnumber
    · exact equals_of_isZero ha hb

theorem isPartialEquality_equals : IsPartialEquality equals fun v => ¬ v.IsNaN where
  symm a b h := by
    rw [equals_iff] at h ⊢
    rcases h with ⟨rfl, hnumber⟩ | ⟨ha, hb⟩
    · exact Or.inl ⟨rfl, hnumber⟩
    · exact Or.inr ⟨hb, ha⟩
  trans a b c hab hbc := by
    rw [equals_iff] at hab hbc ⊢
    rcases hab with ⟨rfl, -⟩ | ⟨ha, hb⟩
    · exact hbc
    · rcases hbc with ⟨rfl, -⟩ | ⟨-, hc⟩
      · exact Or.inr ⟨ha, hb⟩
      · exact Or.inr ⟨ha, hc⟩
  self_iff a := ⟨not_isNaN_of_equals, equals_self⟩

theorem kind_eq_of_equals {a b : Value} (h : a.equals b = true) : a.kind = b.kind := by
  rcases equals_iff.1 h with ⟨rfl, -⟩ | ⟨⟨x, rfl, -⟩, ⟨y, rfl, -⟩⟩
  · rfl
  · rfl

end Value

/-! ## Params -/

namespace Params

/-- A key is bound in neither of two params, or in both to equal values. -/
def BindAlike (p q : Params) (key : String) : Prop :=
  (p.get? key = none ∧ q.get? key = none) ∨
    ∃ a b, p.get? key = some a ∧ q.get? key = some b ∧ a.equals b = true

theorem bindAlike_iff {p q : Params} {key : String} :
    p.BindAlike q key ↔
      Option.Rel (fun a b => a.equals b = true) (p.get? key) (q.get? key) := by
  unfold BindAlike
  cases p.get? key <;> cases q.get? key <;> simp

/-- Entries with the same keys, each of them once, are equal one by one if looking up any key
finds equal values. -/
theorem entriesEqual_of_rel_lookup {as bs : List (String × Value)}
    (hkeys : as.map Prod.fst = bs.map Prod.fst) (hnodup : (as.map Prod.fst).Nodup)
    (h : ∀ key, Option.Rel (fun a b => a.equals b = true) (as.lookup key) (bs.lookup key)) :
    entriesEqual as bs = true := by
  induction as generalizing bs with
  | nil =>
    cases bs with
    | nil => rfl
    | cons b bs => cases hkeys
  | cons a as ih =>
    cases bs with
    | nil => cases hkeys
    | cons b bs =>
      obtain ⟨name, first⟩ := a
      obtain ⟨name', second⟩ := b
      obtain ⟨rfl, hrest⟩ : name = name' ∧ as.map Prod.fst = bs.map Prod.fst := by
        simpa using hkeys
      obtain ⟨hname, hnodup'⟩ := List.nodup_cons.1 hnodup
      have hvalues : first.equals second = true := by
        have hhead := h name
        simpa using hhead
      have htail : entriesEqual as bs = true := by
        apply ih hrest hnodup'
        intro key
        by_cases hkey : key = name
        · subst hkey
          -- The name does not come again, so the rest of both lists has no value for it.
          rw [lookup_eq_none_iff_not_mem.2 hname, lookup_eq_none_iff_not_mem.2 (hrest ▸ hname)]
          exact Option.Rel.none
        · have hother := h key
          simpa [List.lookup_cons, beq_false_of_ne hkey] using hother
      simp [entriesEqual, hvalues, htail]

variable {p q : Params}

theorem mem_keys_iff_of_bindAlike {key : String} (h : p.BindAlike q key) :
    key ∈ p.keys ↔ key ∈ q.keys := by
  rw [← isSome_get?_iff, ← isSome_get?_iff]
  rcases h with ⟨hp, hq⟩ | ⟨a, b, hp, hq, -⟩
  · simp [hp, hq]
  · simp [hp, hq]

/-- The entries of equal params can be compared one by one, because both list their keys in
the same order. -/
theorem equals_iff_bindAlike : p.equals q = true ↔ ∀ key, p.BindAlike q key := by
  constructor
  · intro h key
    exact bindAlike_iff.2 (rel_get?_of_equals h key)
  · intro h
    have hkeys : p.keys = q.keys := keys_eq_of_mem_iff fun key => mem_keys_iff_of_bindAlike (h key)
    apply entriesEqual_of_rel_lookup hkeys p.nodup_keys
    intro key
    exact bindAlike_iff.1 (h key)

theorem BindAlike.symm {key : String} (h : p.BindAlike q key) : q.BindAlike p key := by
  rcases h with ⟨hp, hq⟩ | ⟨a, b, hp, hq, hab⟩
  · exact Or.inl ⟨hq, hp⟩
  · exact Or.inr ⟨b, a, hq, hp, Value.isPartialEquality_equals.symm a b hab⟩

theorem BindAlike.trans {r : Params} {key : String} (hpq : p.BindAlike q key)
    (hqr : q.BindAlike r key) : p.BindAlike r key := by
  rcases hpq with ⟨hp, hq⟩ | ⟨a, b, hp, hq, hab⟩
  · rcases hqr with ⟨-, hr⟩ | ⟨b, c, hq', -, -⟩
    · exact Or.inl ⟨hp, hr⟩
    · rw [hq] at hq'
      cases hq'
  · rcases hqr with ⟨hq', -⟩ | ⟨b', c, hq', hr, hbc⟩
    · rw [hq] at hq'
      cases hq'
    · rw [hq] at hq'
      cases hq'
      exact Or.inr ⟨a, c, hp, hr, Value.isPartialEquality_equals.trans a b c hab hbc⟩

theorem bindAlike_self_iff {key : String} :
    p.BindAlike p key ↔ ∀ value, p.get? key = some value → ¬ value.IsNaN := by
  unfold BindAlike
  cases p.get? key with
  | none => simp
  | some value => simp [Value.isPartialEquality_equals.self_iff]

/-- The params bind no key to what is not a number. -/
def IsRegular (p : Params) : Prop := ∀ key value, p.get? key = some value → ¬ value.IsNaN

theorem isPartialEquality_equals : IsPartialEquality equals IsRegular where
  symm p q h := by
    rw [equals_iff_bindAlike] at h ⊢
    intro key
    exact (h key).symm
  trans p q r hpq hqr := by
    rw [equals_iff_bindAlike] at hpq hqr ⊢
    intro key
    exact (hpq key).trans (hqr key)
  self_iff p := by
    rw [equals_iff_bindAlike]
    exact forall_congr' fun key => bindAlike_self_iff

end Params

/-! ## The law -/

/-- Equality of values is symmetric and transitive, only what is not a number differs from
itself, and values of two kinds always differ. Params are equal exactly if all keys are bound
alike in them, and so their equality is of the same sort: only with what is not a number at
a key do params differ from themselves. -/
theorem params_are_equal_key_by_key :
    IsPartialEquality Value.equals (fun v => ¬ v.IsNaN) ∧
      (∀ a b : Value, a.kind ≠ b.kind → a.equals b = false) ∧
      (∀ p q : Params, p.equals q = true ↔ ∀ key, p.BindAlike q key) ∧
      IsPartialEquality Params.equals Params.IsRegular := by
  refine ⟨Value.isPartialEquality_equals, ?_, ?_, Params.isPartialEquality_equals⟩
  · intro a b hkind
    by_contra hequal
    exact hkind (Value.kind_eq_of_equals (Bool.eq_true_of_not_eq_false hequal))
  · intro p q
    exact Params.equals_iff_bindAlike

-- The order of writing does not count, nor does the sign of a zero. What is not a number
-- makes params differ from themselves.
example : (Params.ofList [("b", .float (.ofCode true 0)), ("a", .absent)]).equals
      (.ofList [("a", .absent), ("b", .float (.ofCode false 0))]) = true ∧
    (Params.ofList [("a", .float ⟨0x7FF8000000000000⟩)]).equals
      (.ofList [("a", .float ⟨0x7FF8000000000000⟩)]) = false := by
  decide

end PathTemplate
