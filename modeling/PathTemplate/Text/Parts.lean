-- A text as its parts between separators.

namespace PathTemplate.Text

/-- The parts of a text between its separators. A text without separators is one part. -/
def partsAt (separator : Char) : List Char → List (List Char)
  | [] => [[]]
  | c :: cs =>
    match partsAt separator cs with
    | [] => [[c]]
    | part :: parts => if c = separator then [] :: part :: parts else (c :: part) :: parts

theorem partsAt_ne_nil (separator : Char) (cs : List Char) : partsAt separator cs ≠ [] := by
  cases cs with
  | nil => simp [partsAt]
  | cons c cs =>
    unfold partsAt
    split
    · simp
    · split <;> simp

/-- One more character in front begins a part, or belongs to the first one. -/
theorem exists_partsAt_cons_eq (separator c : Char) (cs : List Char) :
    ∃ part parts, partsAt separator cs = part :: parts ∧
      partsAt separator (c :: cs) =
        if c = separator then [] :: part :: parts else (c :: part) :: parts := by
  obtain ⟨part, parts, h⟩ := List.exists_cons_of_ne_nil (partsAt_ne_nil separator cs)
  exact ⟨part, parts, h, by rw [partsAt, h]⟩

/-- No part has a separator in it. -/
theorem not_mem_of_mem_partsAt {separator : Char} {cs : List Char} :
    ∀ part ∈ partsAt separator cs, separator ∉ part := by
  induction cs with
  | nil => simp [partsAt]
  | cons c cs ih =>
    obtain ⟨part, parts, hrest, hcons⟩ := exists_partsAt_cons_eq separator c cs
    rw [hrest] at ih
    rw [hcons]
    intro p hp
    split at hp
    · rcases List.mem_cons.1 hp with rfl | hp
      · simp
      · exact ih p hp
    · rename_i hc
      rcases List.mem_cons.1 hp with rfl | hp
      · simpa [Ne.symm hc] using ih part List.mem_cons_self
      · exact ih p (List.mem_cons_of_mem _ hp)

/-- The parts with separators between them are the text. -/
theorem intercalate_partsAt (separator : Char) (cs : List Char) :
    [separator].intercalate (partsAt separator cs) = cs := by
  induction cs with
  | nil => rfl
  | cons c cs ih =>
    obtain ⟨part, parts, hrest, hcons⟩ := exists_partsAt_cons_eq separator c cs
    rw [hrest] at ih
    rw [hcons]
    split
    · rename_i hc
      rw [hc, ← ih]
      simp [List.intercalate]
    · rw [← ih]
      cases parts <;> simp [List.intercalate]

theorem partsAt_of_not_mem {separator : Char} {cs : List Char} (h : separator ∉ cs) :
    partsAt separator cs = [cs] := by
  induction cs with
  | nil => rfl
  | cons c cs ih =>
    rw [List.mem_cons, not_or] at h
    simp [partsAt, ih h.2, Ne.symm h.1]

theorem partsAt_append_cons {separator : Char} {part : List Char} (h : separator ∉ part)
    (rest : List Char) :
    partsAt separator (part ++ separator :: rest) = part :: partsAt separator rest := by
  induction part with
  | nil =>
    cases hrest : partsAt separator rest with
    | nil => exact absurd hrest (partsAt_ne_nil separator rest)
    | cons first more => simp [partsAt, hrest]
  | cons c cs ih =>
    rw [List.mem_cons, not_or] at h
    simp [partsAt, ih h.2, Ne.symm h.1]

/-- Parts without separators, each with one behind it, are had back from their text. -/
theorem dropLast_partsAt {separator : Char} {parts : List (List Char)}
    (h : ∀ part ∈ parts, separator ∉ part) :
    (partsAt separator (parts.flatMap (· ++ [separator]))).dropLast = parts := by
  induction parts with
  | nil => rfl
  | cons part rest ih =>
    obtain ⟨hpart, hrest⟩ := List.forall_mem_cons.1 h
    rw [List.flatMap_cons, List.append_assoc, List.singleton_append, partsAt_append_cons hpart,
      List.dropLast_cons_of_ne_nil (partsAt_ne_nil _ _), ih hrest]

end PathTemplate.Text
