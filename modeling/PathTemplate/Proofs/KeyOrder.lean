-- The order of keys. Bytes, compared from the first one on, put texts in the order of the
-- numbers of their characters. So keys are listed in that order, and the unknown key that a
-- build reports is the least one in it. Units of 16 bits give another order, since the pairs of
-- units that stand for the greatest numbers are not the greatest units.
import Mathlib
import PathTemplate.Proofs.Building
import PathTemplate.Proofs.Entries

namespace PathTemplate

namespace Text

/-! ## Numbers of characters -/

/-- The numbers of the characters of a text. -/
def codePoints (s : String) : List Nat := s.toList.map Char.toNat

theorem before_iff_codePoints_lt {a b : String} :
    Before a b ↔ codePoints a < codePoints b := by
  have hmono : StrictMono (List.map Char.toNat) := by
    intro cs ds h
    exact List.map_lt (fun c d hcd => hcd) h
  rw [before_iff_lt, String.lt_iff_toList_lt]
  exact hmono.lt_iff_lt.symm

/-! ## Units of 16 bits -/

/-- The units of a character: its number, or two surrogates that share what the number has
above 16 bits. -/
def unitsOf (c : Char) : List Nat :=
  if c.toNat < 0x10000 then [c.toNat]
  else [0xD800 + (c.toNat - 0x10000) / 0x400, 0xDC00 + (c.toNat - 0x10000) % 0x400]

/-- The units of a text. -/
def units (s : String) : List Nat := s.toList.flatMap unitsOf

/-- The lesser character stands behind the surrogates, and the greater one is a pair of them.
So by its units the greater one comes first. -/
structure Overtaken (c d : Char) : Prop where
  behind_surrogates : 0xE000 ≤ c.toNat
  one_unit : c.toNat < 0x10000
  two_units : 0x10000 ≤ d.toNat

/-- At the first place where the texts differ, the character of the first one is overtaken. -/
def OvertakenAtDifference (a b : String) : Prop :=
  ∃ front c d rest rest', a.toList = front ++ c :: rest ∧ b.toList = front ++ d :: rest' ∧
    Overtaken c d

section Characters

variable {c d : Char}

theorem unitsOf_of_lt (h : c.toNat < 0x10000) : unitsOf c = [c.toNat] := if_pos h

theorem unitsOf_of_le (h : 0x10000 ≤ c.toNat) :
    unitsOf c = [0xD800 + (c.toNat - 0x10000) / 0x400, 0xDC00 + (c.toNat - 0x10000) % 0x400] :=
  if_neg (not_lt.2 h)

theorem exists_unitsOf_eq (c : Char) : ∃ x rest, unitsOf c = x :: rest := by
  unfold unitsOf
  split
  · exact ⟨_, _, rfl⟩
  · exact ⟨_, _, rfl⟩

theorem Overtaken.lt (h : Overtaken c d) : c < d := h.one_unit.trans_le h.two_units

theorem Overtaken.append_lt (h : Overtaken c d) (r s : List Nat) :
    unitsOf d ++ s < unitsOf c ++ r := by
  have hd := toNat_lt d
  have hbehind := h.behind_surrogates
  rw [unitsOf_of_lt h.one_unit, unitsOf_of_le h.two_units]
  refine List.cons_lt_cons_iff.2 (.inl ?_)
  omega

/-- No character has the number of a surrogate. -/
theorem lt_or_le_of_valid (c : Char) : c.toNat < 0xD800 ∨ 0xE000 ≤ c.toNat :=
  c.valid.imp_right And.left

/-- The lesser character has the lesser units, unless it is overtaken. -/
theorem unitsOf_append_lt (h : c < d) (hnot : ¬ Overtaken c d) (r s : List Nat) :
    unitsOf c ++ r < unitsOf d ++ s := by
  have hlt : c.toNat < d.toNat := h
  by_cases hd : d.toNat < 0x10000
  · rw [unitsOf_of_lt hd, unitsOf_of_lt (hlt.trans hd)]
    exact List.cons_lt_cons_iff.2 (.inl hlt)
  have hd := not_lt.1 hd
  rw [unitsOf_of_le hd]
  by_cases hc : c.toNat < 0x10000
  · have hfront : c.toNat < 0xD800 := (lt_or_le_of_valid c).resolve_right fun hbehind =>
      hnot ⟨hbehind, hc, hd⟩
    rw [unitsOf_of_lt hc]
    exact List.cons_lt_cons_iff.2 (.inl (by omega))
  · rw [unitsOf_of_le (not_lt.1 hc)]
    simp only [List.cons_append, List.nil_append, List.cons_lt_cons_iff]
    omega

end Characters

theorem codePoints_lt_of_overtaken {a b : String} (h : OvertakenAtDifference a b) :
    codePoints a < codePoints b := by
  obtain ⟨front, c, d, rest, rest', ha, hb, hcd⟩ := h
  rw [codePoints, codePoints, ha, hb, List.map_append, List.map_append]
  exact List.append_left_lt (List.cons_lt_cons_iff.2 (.inl hcd.lt))

theorem units_lt_of_overtaken {a b : String} (h : OvertakenAtDifference a b) :
    units b < units a := by
  obtain ⟨front, c, d, rest, rest', ha, hb, hcd⟩ := h
  rw [units, units, ha, hb, List.flatMap_append, List.flatMap_append]
  exact List.append_left_lt (hcd.append_lt _ _)

/-- In any other case the units stand in the order of the bytes. -/
theorem units_lt_or_overtaken {a b : String} (h : Before a b) :
    units a < units b ∨ OvertakenAtDifference a b := by
  rw [before_iff_lt, String.lt_iff_toList_lt] at h
  unfold units OvertakenAtDifference
  rcases exists_difference h with ⟨c, rest, hb⟩ | ⟨front, c, d, rest, rest', ha, hb, hcd⟩
  · obtain ⟨x, xs, hc⟩ := exists_unitsOf_eq c
    left
    rw [hb, List.flatMap_append, List.flatMap_cons, hc]
    exact lt_append_cons _ _ _
  · by_cases hover : Overtaken c d
    · exact .inr ⟨front, c, d, rest, rest', ha, hb, hover⟩
    · left
      rw [ha, hb, List.flatMap_append, List.flatMap_append]
      exact List.append_left_lt (unitsOf_append_lt hcd hover _ _)

theorem overtaken_iff {a b : String} :
    OvertakenAtDifference a b ↔ codePoints a < codePoints b ∧ units b < units a := by
  refine ⟨fun h => ⟨codePoints_lt_of_overtaken h, units_lt_of_overtaken h⟩, ?_⟩
  rintro ⟨hpoints, hunits⟩
  rcases units_lt_or_overtaken (before_iff_codePoints_lt.2 hpoints) with hlt | hover
  · exact absurd hunits hlt.asymm
  · exact hover

end Text

open Text

/-! ## Keys -/

/-- The keys are listed in their order, and nothing else is. -/
theorem Params.keys_eq_iff {p : Params} {names : List String} :
    p.keys = names ↔ names.Pairwise Before ∧ ∀ name, name ∈ names ↔ p.contains name = true := by
  simp only [contains_iff]
  constructor
  · rintro rfl
    exact ⟨p.keys_inOrder, fun name => Iff.rfl⟩
  · rintro ⟨horder, hmem⟩
    exact eq_of_inOrder p.keys_inOrder horder fun name => (hmem name).symm

/-! ## The law -/

/-- Texts stand in the order of their bytes just as they stand in the order of the numbers of
their characters. So the keys of params are listed by these numbers, and the unknown key that a
build reports has the least of them among the keys without a placeholder. By units of 16 bits
two texts stand the other way round exactly if a pair of surrogates overtakes where they first
differ. -/
theorem keys_come_in_the_order_of_their_characters :
    (∀ a b, bytes a < bytes b ↔ codePoints a < codePoints b) ∧
    (∀ (p : Params) names, p.keys = names ↔
      names.Pairwise (fun a b => codePoints a < codePoints b) ∧
        ∀ name, name ∈ names ↔ p.contains name = true) ∧
    (∀ (t : Template) (p : Params) key, t.build p = .error (.unknownParam key) ↔
      p.Covers t.tokens ∧ key ∈ p.keys ∧ .placeholder key ∉ t.tokens ∧
        ∀ other ∈ p.keys, .placeholder other ∉ t.tokens →
          other = key ∨ codePoints key < codePoints other) ∧
    ∀ a b, OvertakenAtDifference a b ↔ codePoints a < codePoints b ∧ units b < units a := by
  refine ⟨fun a b => before_iff_codePoints_lt, fun p names => ?_, fun t p key => ?_,
    fun a b => overtaken_iff⟩
  · rw [Params.keys_eq_iff, List.Pairwise.iff fun a b => before_iff_codePoints_lt]
  · rw [Template.build_eq_unknown_iff, and_congr_right_iff]
    intro _
    simp only [← before_iff_codePoints_lt]
    exact ⟨fun h => ⟨h.mem, h.undeclared, h.least⟩, fun h => ⟨h.1, h.2.1, h.2.2⟩⟩

-- Keys of one to four bytes. By units of 16 bits the last two would change places.
example : (Params.ofList [("😀", .absent), ("～", .absent), ("z", .absent), ("é", .absent)]).keys =
    ["z", "é", "～", "😀"] ∧ units "😀" < units "～" := by
  constructor
  · cbv
  · decide

end PathTemplate
