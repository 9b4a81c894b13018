-- Params that no build tells apart. A build looks at the keys, at which values are
-- absent, and at the texts of the others. Where two params agree in these, each
-- template gets the same path from both, or the same error.
import Mathlib
import PathTemplate.Proofs.Building
import PathTemplate.Proofs.Entries

namespace PathTemplate

/-! ## Params that look alike -/

namespace Params

/-- Both have the same keys, and a placeholder finds the same text in both, or no value in
either. -/
structure Alike (p q : Params) : Prop where
  keys_eq : p.keys = q.keys
  resolve_eq : ∀ name, (p.resolve name).map Value.text = (q.resolve name).map Value.text

/-- A value that is not absent does as well as its text. -/
theorem alike_of_texts {p q : Params} (hpresent : ∀ e ∈ p.entries, e.2 ≠ .absent)
    (h : ∀ key, q.get? key = (p.get? key).map fun value => .string value.text) :
    p.Alike q := by
  refine ⟨?_, ?_⟩
  · apply keys_eq_of_mem_iff
    intro key
    rw [← isSome_get?_iff, ← isSome_get?_iff, h, Option.isSome_map]
  · intro name
    cases hget : p.get? name with
    | none =>
      unfold resolve
      rw [h, hget]
      rfl
    | some value =>
      have hvalue : value ≠ .absent := hpresent _ (get?_eq_some_iff.1 hget)
      have hp : p.resolve name = .ok value := resolve_eq_ok_iff.2 ⟨hget, hvalue⟩
      have hq : q.resolve name = .ok (.string value.text) := by
        rw [resolve_eq_ok_iff, h, hget]
        exact ⟨rfl, Value.noConfusion⟩
      rw [hp, hq]
      rfl

end Params

/-! ## Building with either -/

section Building

variable {p q : Params}

namespace Draft

/-- Of a value, only the text goes into a draft. -/
theorem add_placeholder_eq (p : Params) (d : Draft) (name : String) :
    d.add p (.placeholder name) =
      ((p.resolve name).map Value.text).map fun text => ⟨d.path ++ text, name :: d.used⟩ := by
  simp only [add]
  cases p.resolve name <;> rfl

theorem add_eq_of_alike (h : p.Alike q) (d : Draft) (token : Token) :
    d.add p token = d.add q token := by
  cases token with
  | literal text => rfl
  | placeholder name => rw [add_placeholder_eq, add_placeholder_eq, h.resolve_eq]

theorem addAll_eq_of_alike (h : p.Alike q) (d : Draft) (tokens : List Token) :
    d.addAll p tokens = d.addAll q tokens := by
  induction tokens generalizing d with
  | nil => rfl
  | cons token rest ih =>
    rw [addAll, addAll, add_eq_of_alike h]
    cases d.add q token with
    | ok next => exact ih next
    | error e => rfl

end Draft

theorem Template.build_eq_of_alike (h : p.Alike q) (t : Template) : t.build p = t.build q := by
  unfold Template.build Params.unusedKey?
  rw [Draft.addAll_eq_of_alike h, h.keys_eq]

theorem build_eq_of_alike (h : p.Alike q) (s : String) : build s p = build s q := by
  unfold build
  cases Template.parse s with
  | ok t => exact t.build_eq_of_alike h
  | error e => rfl

end Building

end PathTemplate
