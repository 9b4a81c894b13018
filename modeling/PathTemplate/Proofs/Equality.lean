-- Equal values and equal params. Values are equal when they are the same or two zeros,
-- and params when they have the same keys with equal values. So a build makes the same
-- of equal params, but for the sign of a zero.
import Mathlib
import PathTemplate.Proofs.Building
import PathTemplate.Proofs.Entries

namespace PathTemplate

open Binary (Binary64)

/-! ## Equal values -/

theorem Binary.Binary64.equals_iff {x y : Binary64} :
    x.equals y = true ↔
      x.isNaN = false ∧ y.isNaN = false ∧ (x = y ∨ x.code = 0 ∧ y.code = 0) := by
  have hbits : x.bits = y.bits ↔ x = y := by
    cases x
    cases y
    simp
  unfold equals
  simp only [Bool.and_eq_true, Bool.or_eq_true, Bool.not_eq_true', beq_iff_eq, hbits, and_assoc]

namespace Value

/-- Equal values are the same, but that the two zeros are equal. -/
theorem eq_or_zeros_of_equals {a b : Value} (h : a.equals b = true) :
    a = b ∨ ∃ x y, a = .float x ∧ b = .float y ∧ x.code = 0 ∧ y.code = 0 := by
  cases a with
  | string s =>
    cases b with
    | string t => exact Or.inl (congrArg _ (beq_iff_eq.1 h))
    | _ => cases h
  | int m =>
    cases b with
    | int n => exact Or.inl (congrArg _ (beq_iff_eq.1 h))
    | _ => cases h
  | uint m =>
    cases b with
    | uint n => exact Or.inl (congrArg _ (beq_iff_eq.1 h))
    | _ => cases h
  | float x =>
    cases b with
    | float y =>
      obtain ⟨-, -, rfl | hzero⟩ := Binary64.equals_iff.1 h
      · exact Or.inl rfl
      · exact Or.inr ⟨x, y, rfl, rfl, hzero⟩
    | _ => cases h
  | bool c =>
    cases b with
    | bool d => exact Or.inl (congrArg _ (beq_iff_eq.1 h))
    | _ => cases h
  | absent =>
    cases b with
    | absent => exact Or.inl rfl
    | _ => cases h

theorem eq_absent_iff_of_equals {a b : Value} (h : a.equals b = true) :
    a = .absent ↔ b = .absent := by
  obtain rfl | ⟨x, y, rfl, rfl, -⟩ := eq_or_zeros_of_equals h
  · exact Iff.rfl
  · simp

end Value

/-! ## Equal params -/

namespace Params

section Lists

variable {as bs : List (String × Value)}

theorem entriesEqual_iff :
    entriesEqual as bs = true ↔
      List.Forall₂ (fun a b => a.1 = b.1 ∧ a.2.equals b.2 = true) as bs := by
  fun_induction entriesEqual as bs with
  | case1 => simp
  | case2 a as b bs ih => simp [ih]
  | case3 as bs hnil hcons =>
    cases as with
    | nil =>
      cases bs with
      | nil => exact absurd rfl (hnil rfl)
      | cons b bs => simp
    | cons a as =>
      cases bs with
      | nil => simp
      | cons b bs => exact absurd rfl (hcons a as b bs rfl)

theorem map_fst_eq_of_entriesEqual (h : entriesEqual as bs = true) :
    as.map Prod.fst = bs.map Prod.fst := by
  induction entriesEqual_iff.1 h with
  | nil => rfl
  | cons hentry hrest ih =>
    rw [List.map_cons, List.map_cons, hentry.1, ih (entriesEqual_iff.2 hrest)]

theorem rel_lookup_of_entriesEqual (h : entriesEqual as bs = true) (key : String) :
    Option.Rel (fun a b => a.equals b = true) (as.lookup key) (bs.lookup key) := by
  induction entriesEqual_iff.1 h with
  | nil => exact Option.Rel.none
  | @cons a b as bs hentry hrest ih =>
    rw [List.lookup_cons, List.lookup_cons, hentry.1]
    split
    · exact Option.Rel.some hentry.2
    · exact ih (entriesEqual_iff.2 hrest)

end Lists

variable {p q : Params}

theorem keys_eq_of_equals (h : p.equals q = true) : p.keys = q.keys :=
  map_fst_eq_of_entriesEqual h

/-- A key is bound in both to equal values, or in neither. -/
theorem rel_get?_of_equals (h : p.equals q = true) (key : String) :
    Option.Rel (fun a b => a.equals b = true) (p.get? key) (q.get? key) :=
  rel_lookup_of_entriesEqual h key

theorem supplies_iff_of_equals (h : p.equals q = true) (name : String) :
    p.Supplies name ↔ q.Supplies name := by
  have hrel := rel_get?_of_equals h name
  unfold Supplies
  generalize p.get? name = a at hrel ⊢
  generalize q.get? name = b at hrel ⊢
  cases hrel with
  | none => exact Iff.rfl
  | some hvalue => simp [Value.eq_absent_iff_of_equals hvalue]

/-- Equal params are the same if no key is bound to a zero. -/
theorem eq_of_equals (h : p.equals q = true)
    (hzero : ∀ key x, p.get? key = some (.float x) → x.code ≠ 0) : p = q := by
  apply ext_get?
  intro key
  have hrel := rel_get?_of_equals h key
  have hkey := hzero key
  generalize p.get? key = a at hrel hkey ⊢
  generalize q.get? key = b at hrel ⊢
  cases hrel with
  | none => rfl
  | some hvalue =>
    obtain rfl | ⟨x, y, rfl, rfl, hx, -⟩ := Value.eq_or_zeros_of_equals hvalue
    · rfl
    · exact absurd hx (hkey x rfl)

end Params

/-! ## Building with equal params -/

section Building

variable {p q : Params}

theorem Template.build_eq_error_iff_of_equals {t : Template} {e : Error} (h : p.equals q = true) :
    t.build p = .error e ↔ t.build q = .error e := by
  have hsupplies : ∀ name, .placeholder name ∈ t.tokens → (p.Supplies name ↔ q.Supplies name) := by
    intro name _
    exact Params.supplies_iff_of_equals h name
  have hkeys : ∀ key, .placeholder key ∉ t.tokens → (key ∈ p.keys ↔ key ∈ q.keys) := by
    intro key _
    rw [Params.keys_eq_of_equals h]
  simp only [Template.build_eq_error_iff, Params.firstMissing_congr hsupplies,
    Params.covers_congr hsupplies, Params.leastUndeclared_congr hkeys]

theorem build_eq_error_iff_of_equals {s : String} {e : Error} (h : p.equals q = true) :
    build s p = .error e ↔ build s q = .error e := by
  cases hparse : Template.parse s with
  | ok t =>
    rw [build_of_parse_eq_ok hparse, build_of_parse_eq_ok hparse]
    exact Template.build_eq_error_iff_of_equals h
  | error e' => rw [build_of_parse_eq_error hparse, build_of_parse_eq_error hparse]

/-- Equal params give the same error, or each of them gives a path. Where no key is bound to a
zero, the two paths are the same. -/
theorem equal_params_build_alike (s : String) (h : p.equals q = true) :
    (∃ e, build s p = .error e ∧ build s q = .error e) ∨
      ∃ first second, build s p = .ok first ∧ build s q = .ok second ∧
        ((∀ key x, p.get? key = some (.float x) → x.code ≠ 0) → first = second) := by
  cases hp : build s p with
  | error e => exact Or.inl ⟨e, rfl, (build_eq_error_iff_of_equals h).1 hp⟩
  | ok first =>
    cases hq : build s q with
    | error e =>
      rw [← build_eq_error_iff_of_equals h, hp] at hq
      cases hq
    | ok second =>
      refine Or.inr ⟨first, second, rfl, rfl, fun hzero => ?_⟩
      rw [Params.eq_of_equals h hzero, hq] at hp
      cases hp
      rfl

end Building

/-- The two zeros are equal, but each of them has its sign in the path. A key without a
placeholder is the same error for both. -/
theorem equal_params_build_alike_with_both_zeros :
    (Params.ofList [("z", .float (.ofCode false 0)), ("a", .int (-5))]).equals
      (.ofList [("a", .int (-5)), ("z", .float (.ofCode true 0))]) = true ∧
    build "/:z:a" (.ofList [("z", .float (.ofCode false 0)), ("a", .int (-5))]) = .ok "/0-5" ∧
    build "/:z:a" (.ofList [("a", .int (-5)), ("z", .float (.ofCode true 0))]) = .ok "/-0-5" ∧
    ∃ e, build "/:a" (.ofList [("z", .float (.ofCode false 0)), ("a", .int (-5))]) = .error e ∧
      build "/:a" (.ofList [("a", .int (-5)), ("z", .float (.ofCode true 0))]) = .error e := by
  have hequal : (Params.ofList [("z", .float (.ofCode false 0)), ("a", .int (-5))]).equals
      (.ofList [("a", .int (-5)), ("z", .float (.ofCode true 0))]) = true := by
    decide
  refine ⟨hequal, by cbv, by cbv, ?_⟩
  rcases equal_params_build_alike "/:a" hequal with herr | ⟨first, _, hfirst, -⟩
  · exact herr
  · have hunknown : build "/:a" (.ofList [("z", .float (.ofCode false 0)), ("a", .int (-5))]) =
        .error (.unknownParam "z") := by
      cbv
    rw [hunknown] at hfirst
    cases hfirst

end PathTemplate
