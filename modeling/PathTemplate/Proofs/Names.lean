-- The names of a template. Each of them is listed once, at the place of its first placeholder.
-- So of two names the one whose placeholder comes first is listed first, and the first name of
-- some kind is the first one of its kind among the placeholders.
import Mathlib
import PathTemplate.Proofs.Building

namespace PathTemplate

/-! ## Lists without what comes again -/

section Lists

variable {α : Type} [DecidableEq α]

/-- What comes last is listed if it did not come before. -/
theorem eraseDups_append_singleton (as : List α) (b : α) :
    (as ++ [b]).eraseDups = if b ∈ as then as.eraseDups else as.eraseDups ++ [b] := by
  rw [List.eraseDups_append]
  by_cases h : b ∈ as
  · simp [List.removeAll, h]
  · simp [List.removeAll, h, List.eraseDups_cons]

theorem nodup_eraseDups (as : List α) : as.eraseDups.Nodup := by
  induction as using List.reverseRecOn with
  | nil => simp
  | append_singleton as b ih =>
    rw [eraseDups_append_singleton]
    split
    · exact ih
    · next h =>
      rw [← List.concat_eq_append]
      exact List.Nodup.concat (mt List.mem_eraseDups.1 h) ih

theorem find?_eraseDups (as : List α) (isWanted : α → Bool) :
    as.eraseDups.find? isWanted = as.find? isWanted := by
  induction as using List.reverseRecOn with
  | nil => simp
  | append_singleton as b ih =>
    rw [eraseDups_append_singleton, List.find?_append]
    split
    · next h =>
      rw [ih]
      cases hfind : as.find? isWanted with
      | some a => rfl
      | none => simp [List.find?_eq_none.1 hfind b h]
    · rw [List.find?_append, ih]

end Lists

/-! ## Names of placeholders -/

namespace Template

theorem nodup_names (t : Template) : t.names.Nodup := nodup_eraseDups _

theorem find?_names (t : Template) (isWanted : String → Bool) :
    t.names.find? isWanted = (t.tokens.filterMap Token.name?).find? isWanted :=
  find?_eraseDups _ _

end Template

/-! ## Which of two comes first -/

/-- Of two members the first is the one that a search for either of them finds. -/
theorem idxOf_lt_idxOf_iff {α : Type} [DecidableEq α] {as : List α} {a b : α} :
    as.idxOf a < as.idxOf b ↔ a ≠ b ∧ as.find? (fun x => x == a || x == b) = some a := by
  induction as with
  | nil => simp
  | cons x rest ih =>
    by_cases ha : x = a
    · subst ha
      by_cases hb : x = b <;> simp [hb]
    · by_cases hb : x = b
      · subst hb
        simp [ha]
      · simp [ha, hb, ih]

/-! ## Names and placeholders -/

namespace Token

theorem name?_eq_some_iff {t : Token} {name : String} :
    t.name? = some name ↔ t = .placeholder name := by
  cases t <;> simp [name?]

/-- To search the names for either of two is to search the tokens for their placeholders. -/
theorem find?_filterMap_name? {tokens : List Token} {a b : String} :
    (tokens.filterMap name?).find? (fun name => name == a || name == b) = some a ↔
      tokens.find? (fun t => t == .placeholder a || t == .placeholder b) =
        some (.placeholder a) := by
  have hwanted : (fun t : Token => t.name?.any fun name => name == a || name == b) =
      fun t => t == .placeholder a || t == .placeholder b := by
    funext t
    cases t with
    | literal text => rfl
    | placeholder name =>
      rw [Bool.eq_iff_iff]
      simp [name?]
  rw [List.find?_filterMap, hwanted, Option.bind_eq_some_iff]
  simp only [name?_eq_some_iff, exists_eq_right]

end Token

/-! ## The law -/

/-- The names of a template are those of its placeholders, each once. They are listed in the
order in which the template first holds them. -/
theorem names_are_listed_where_they_come_first (t : Template) :
    (∀ name, name ∈ t.names ↔ .placeholder name ∈ t.tokens) ∧
    t.names.Nodup ∧
    ∀ a b, t.names.idxOf a < t.names.idxOf b ↔
      t.tokens.idxOf (.placeholder a) < t.tokens.idxOf (.placeholder b) := by
  refine ⟨fun name => Template.mem_names, t.nodup_names, fun a b => ?_⟩
  rw [idxOf_lt_idxOf_iff, idxOf_lt_idxOf_iff, Template.find?_names, Token.find?_filterMap_name?]
  simp

-- The name that comes again is listed in front of the one between its two places.
example : Template.names ⟨"/:b/:a:b", [.literal "/", .placeholder "b", .literal "/",
    .placeholder "a", .placeholder "b"]⟩ = ["b", "a"] := by
  decide

end PathTemplate
