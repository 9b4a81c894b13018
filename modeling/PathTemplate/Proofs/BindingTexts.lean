-- The texts of bindings. An argument is cut at its first equals sign. What stands in front of
-- it is the key, and what follows it is the value, whatever it holds. An argument without an
-- equals sign has no key, and in one that begins with it the key is empty, so both are refused.
import Mathlib
import PathTemplate.Proofs.Arguments

namespace PathTemplate.Command.Binding

variable {x : String}

/-! ## Keys -/

theorem isKeyChar_iff {c : Char} : isKeyChar c = true ↔ c ≠ '=' := by
  unfold isKeyChar
  exact bne_iff_ne

theorem forall_isKeyChar_iff {cs : List Char} :
    (∀ c ∈ cs, isKeyChar c = true) ↔ '=' ∉ cs := by
  simp only [isKeyChar_iff]
  constructor
  · intro h hmem
    exact h '=' hmem rfl
  · rintro h c hc rfl
    exact h hc

theorem wellFormed_iff {b : Binding} : b.WellFormed ↔ b.key ≠ "" ∧ '=' ∉ b.key.toList := by
  rw [← forall_isKeyChar_iff, ne_eq, ← String.toList_eq_nil_iff]
  exact ⟨fun h => ⟨h.ne_nil, h.all⟩, fun h => ⟨h.1, h.2⟩⟩

/-! ## The three kinds of arguments -/

/-- How an argument is read, and what comes of it. -/
inductive Parses (x : String) : Except BindingError Binding → Prop
  | unmarked : '=' ∉ x.toList → Parses x (.error (.noEqualsSign x))
  | keyless : x.toList.head? = some '=' → Parses x (.error (.emptyKey x))
  | binding {b : Binding} : b.WellFormed → x = b.text → Parses x (.ok b)

/-- The first equals sign of an argument tells which kind it is of. -/
theorem exists_parses (x : String) : ∃ result, Parses x result := by
  by_cases hmem : '=' ∈ x.toList
  · obtain ⟨key, value, hx, hkey⟩ := List.eq_append_cons_of_mem hmem
    cases key with
    | nil => exact ⟨_, .keyless (by simp [hx])⟩
    | cons c cs =>
      have hwell : WellFormed ⟨String.ofList (c :: cs), String.ofList value⟩ := by
        rw [wellFormed_iff, String.toList_ofList]
        exact ⟨by simp, hkey⟩
      refine ⟨_, .binding hwell (String.toList_inj.1 ?_)⟩
      rw [toList_text, hx, String.toList_ofList, String.toList_ofList]
  · exact ⟨_, .unmarked hmem⟩

theorem parse_of_unmarked (h : '=' ∉ x.toList) : parse x = .error (.noEqualsSign x) := by
  have hdrop : x.toList.dropWhile isKeyChar = [] :=
    List.dropWhile_eq_nil_iff.2 (forall_isKeyChar_iff.2 h)
  rw [parse, hdrop]

theorem parse_of_keyless (h : x.toList.head? = some '=') : parse x = .error (.emptyKey x) := by
  obtain ⟨value, hx⟩ := List.head?_eq_some_iff.1 h
  unfold parse
  simp [hx, isKeyChar]

/-- An argument is read in just one way. -/
theorem parses_iff {result : Except BindingError Binding} :
    Parses x result ↔ parse x = result := by
  have hparse {r : Except BindingError Binding} (h : Parses x r) : parse x = r := by
    cases h with
    | unmarked hnone => exact parse_of_unmarked hnone
    | keyless hfirst => exact parse_of_keyless hfirst
    | binding hwell htext => rw [htext, parse_text hwell]
  refine ⟨hparse, ?_⟩
  rintro rfl
  obtain ⟨r, hr⟩ := exists_parses x
  rwa [hparse hr]

/-! ## The law -/

/-- An argument is read as a key and a value exactly if the key is not empty and has no equals
sign, and the argument is the key, an equals sign and the value. It is refused exactly if it
has no equals sign or begins with one, and the report says which. -/
theorem a_binding_is_cut_at_its_first_equals_sign (x : String) :
    (∀ key value, parse x = .ok ⟨key, value⟩ ↔
      key ≠ "" ∧ '=' ∉ key.toList ∧ x = key ++ "=" ++ value) ∧
    ∀ report, (∃ e, parse x = .error e ∧ e.message = report) ↔
      ('=' ∉ x.toList ∧ report = "expected KEY=VALUE, got `" ++ x ++ "`") ∨
      (x.toList.head? = some '=' ∧ report = "empty key in `" ++ x ++ "`") := by
  refine ⟨fun key value => ?_, fun report => ?_⟩
  · rw [← parses_iff, ← and_assoc]
    constructor
    · intro h
      cases h with
      | binding hwell htext => exact ⟨wellFormed_iff.1 hwell, htext⟩
    · rintro ⟨hkey, htext⟩
      exact .binding (wellFormed_iff.2 hkey) htext
  · simp only [← parses_iff]
    constructor
    · rintro ⟨e, h, rfl⟩
      cases h with
      | unmarked hnone => exact .inl ⟨hnone, rfl⟩
      | keyless hfirst => exact .inr ⟨hfirst, rfl⟩
    · rintro (⟨hnone, rfl⟩ | ⟨hfirst, rfl⟩)
      · exact ⟨_, .unmarked hnone, rfl⟩
      · exact ⟨_, .keyless hfirst, rfl⟩

-- Blanks and further equals signs belong to the value.
example : parse "q= a=b=" = .ok ⟨"q", " a=b="⟩ := by
  decide

end PathTemplate.Command.Binding
