-- The colons of a text. A colon with no name character behind it is bare. A
-- text without a bare colon is a template, and any other text is refused with
-- the place of its first bare colon.
import PathTemplate.Proofs.Reading

namespace PathTemplate

open Text (byteLength bytes bytesOf)

/-! ## Bare colons -/

/-- A name character stands at this place. -/
def NameAt (cs : List Char) (i : Nat) : Prop := ∃ c, cs[i]? = some c ∧ isNameChar c = true

/-- A colon stands at this place, and no name character behind it. -/
def BareAt (cs : List Char) (i : Nat) : Prop := cs[i]? = some ':' ∧ ¬ NameAt cs (i + 1)

/-- The first bare colon stands at this place. -/
structure FirstBareAt (cs : List Char) (i : Nat) : Prop where
  bare : BareAt cs i
  named_before : ∀ j < i, cs[j]? = some ':' → NameAt cs (j + 1)

theorem not_bareAt_nil (i : Nat) : ¬ BareAt [] i := by
  simp [BareAt]

theorem bareAt_zero {rest : List Char} (h : Stops isNameChar rest) :
    BareAt (':' :: rest) 0 := by
  refine ⟨rfl, ?_⟩
  rintro ⟨c, hc, hname⟩
  rw [List.getElem?_cons_succ, ← List.head?_eq_getElem?] at hc
  simp [h c hc] at hname

theorem firstBareAt_iff {cs : List Char} {i : Nat} :
    FirstBareAt cs i ↔ BareAt cs i ∧ ∀ j < i, ¬ BareAt cs j := by
  refine ⟨fun h => ⟨h.bare, ?_⟩, fun ⟨hb, hbefore⟩ => ⟨hb, ?_⟩⟩
  · intro j hj hb
    exact hb.2 (h.named_before j hj hb.1)
  · intro j hj hc
    exact Classical.byContradiction fun hn => hbefore j hj ⟨hc, hn⟩

theorem firstBareAt_unique {cs : List Char} {i j : Nat} (hi : FirstBareAt cs i)
    (hj : FirstBareAt cs j) : i = j := by
  rw [firstBareAt_iff] at hi hj
  rcases Nat.lt_trichotomy i j with h | h | h
  · exact absurd hi.1 (hj.2 i h)
  · exact h
  · exact absurd hj.1 (hi.2 j h)

/-! ## Behind a piece -/

/-- The bare colons behind a run are those of the rest. -/
theorem bareAt_append (run : List Char) {rest : List Char} {j : Nat} :
    BareAt (run ++ rest) (run.length + j) ↔ BareAt rest j := by
  have hget (k : Nat) : (run ++ rest)[run.length + k]? = rest[k]? := by
    rw [List.getElem?_append_right (by omega), Nat.add_sub_cancel_left]
  simp only [BareAt, NameAt, Nat.add_assoc, hget]

/-- No colon of a run is bare where the rest follows it. -/
def Passed (run rest : List Char) : Prop := ∀ i < run.length, ¬ BareAt (run ++ rest) i

theorem Passed.not_bareAt {run rest : List Char} (h : Passed run rest)
    (hrest : ∀ j, ¬ BareAt rest j) (i : Nat) : ¬ BareAt (run ++ rest) i := by
  rcases Nat.lt_or_ge i run.length with hi | hi
  · exact h i hi
  · obtain ⟨j, rfl⟩ := Nat.exists_eq_add_of_le hi
    rw [bareAt_append]
    exact hrest j

theorem Passed.firstBareAt {run rest : List Char} (h : Passed run rest) {j : Nat}
    (hj : FirstBareAt rest j) : FirstBareAt (run ++ rest) (run.length + j) := by
  rw [firstBareAt_iff] at hj ⊢
  refine ⟨(bareAt_append run).2 hj.1, fun i hi => ?_⟩
  rcases Nat.lt_or_ge i run.length with hlt | hge
  · exact h i hlt
  · obtain ⟨k, rfl⟩ := Nat.exists_eq_add_of_le hge
    rw [bareAt_append]
    exact hj.2 k (by omega)

/-- What is reported behind a run is reported for the whole, so many bytes later. -/
theorem Passed.reported {run rest : List Char} (h : Passed run rest) {offset : Nat} {e : Error}
    (hrest : ∃ j, FirstBareAt rest j ∧
      e = .invalidDeclaration (offset + byteLength run + byteLength (rest.take j))) :
    ∃ i, FirstBareAt (run ++ rest) i ∧
      e = .invalidDeclaration (offset + byteLength ((run ++ rest).take i)) := by
  obtain ⟨j, hj, rfl⟩ := hrest
  refine ⟨run.length + j, h.firstBareAt hj, ?_⟩
  rw [List.take_length_add_append, Text.byteLength_append, Nat.add_assoc]

theorem passed_literal {text : List Char} (h : IsRun isLiteralChar text) (rest : List Char) :
    Passed text rest := by
  intro i hi hb
  have hc := hb.1
  rw [List.getElem?_append_left hi] at hc
  exact h.getElem?_ne isLiteralChar_colon i hc

/-- The colon of a placeholder has its name behind it, and a name holds no colon. -/
theorem passed_placeholder {name : List Char} (h : IsRun isNameChar name) (rest : List Char) :
    Passed (':' :: name) rest := by
  intro i hi hb
  cases i with
  | zero =>
    cases name with
    | nil => exact h.ne_nil rfl
    | cons c name => exact hb.2 ⟨c, rfl, h.all c List.mem_cons_self⟩
  | succ i =>
    have hc := hb.1
    rw [List.getElem?_append_left hi, List.getElem?_cons_succ] at hc
    exact h.getElem?_ne isNameChar_colon i hc

/-! ## How reading ends -/

theorem not_bareAt_of_reads {offset : Nat} {cs : List Char} {result : Except Error (List Token)}
    (h : Reads offset cs result) :
    ∀ tokens, result = .ok tokens → ∀ i, ¬ BareAt cs i := by
  induction h with
  | done =>
    intro tokens _
    exact not_bareAt_nil
  | bare _ =>
    intro tokens h
    cases h
  | placeholder hname _ _ ih =>
    intro tokens h
    obtain ⟨others, hothers, -⟩ := map_eq_ok_iff.1 h
    apply (passed_placeholder hname _).not_bareAt
    exact ih others hothers
  | literal htext _ _ ih =>
    intro tokens h
    obtain ⟨others, hothers, -⟩ := map_eq_ok_iff.1 h
    apply (passed_literal htext _).not_bareAt
    exact ih others hothers

/-- The place of an error is that of the first bare colon. -/
theorem firstBareAt_of_reads {offset : Nat} {cs : List Char} {result : Except Error (List Token)}
    (h : Reads offset cs result) :
    ∀ e, result = .error e →
      ∃ i, FirstBareAt cs i ∧ e = .invalidDeclaration (offset + byteLength (cs.take i)) := by
  induction h with
  | done =>
    intro e h
    cases h
  | bare hrest =>
    intro e h
    cases h
    exact ⟨0, ⟨bareAt_zero hrest, by simp⟩, by simp⟩
  | placeholder hname _ _ ih =>
    intro e h
    apply (passed_placeholder hname _).reported
    exact ih e (map_eq_error_iff.1 h)
  | literal htext _ _ ih =>
    intro e h
    apply (passed_literal htext _).reported
    exact ih e (map_eq_error_iff.1 h)

/-! ## Templates -/

namespace Template

theorem not_bareAt_of_parse {s : String} {t : Template} (h : parse s = .ok t) (i : Nat) :
    ¬ BareAt s.toList i :=
  not_bareAt_of_reads (reads_of_parse h) t.tokens rfl i

theorem parse_eq_error_iff {s : String} {e : Error} :
    parse s = .error e ↔
      ∃ i, FirstBareAt s.toList i ∧ e = .invalidDeclaration (byteLength (s.toList.take i)) := by
  -- A text that is refused has a first bare colon, and it has no other one.
  have hplace {e : Error} (h : parse s = .error e) :
      ∃ i, FirstBareAt s.toList i ∧ e = .invalidDeclaration (byteLength (s.toList.take i)) := by
    simpa using firstBareAt_of_reads (reads_tokensFrom 0 s.toList) e (map_eq_error_iff.1 h)
  refine ⟨hplace, ?_⟩
  rintro ⟨i, hi, rfl⟩
  cases hparse : parse s with
  | ok t => exact absurd hi.bare (not_bareAt_of_parse hparse i)
  | error e =>
    obtain ⟨j, hj, rfl⟩ := hplace hparse
    rw [firstBareAt_unique hi hj]

theorem exists_parse_eq_ok_iff {s : String} :
    (∃ t, parse s = .ok t) ↔ ∀ i, ¬ BareAt s.toList i := by
  refine ⟨fun ⟨t, h⟩ => not_bareAt_of_parse h, fun h => ?_⟩
  cases hparse : parse s with
  | ok t => exact ⟨t, rfl⟩
  | error e =>
    obtain ⟨i, hi, -⟩ := parse_eq_error_iff.1 hparse
    exact absurd hi.bare (h i)

end Template

/-! ## The bytes of a colon -/

/-- A colon is one byte, at the place where the bytes before it end. -/
theorem getElem?_bytesOf_colon {cs : List Char} {i : Nat} (h : cs[i]? = some ':') :
    (bytesOf cs)[byteLength (cs.take i)]? = some ':'.toUInt8 := by
  obtain ⟨hi, hc⟩ := List.getElem?_eq_some_iff.1 h
  have hsplit : cs = cs.take i ++ ':' :: cs.drop (i + 1) := by
    rw [← hc, ← List.drop_eq_getElem_cons hi, List.take_append_drop]
  have hbytes : bytesOf cs = bytesOf (cs.take i) ++ (':'.toUInt8 :: bytesOf (cs.drop (i + 1))) := by
    conv => lhs; rw [hsplit]
    rw [Text.bytesOf_append, Text.bytesOf_cons]
    rfl
  rw [hbytes, ← Text.length_bytesOf, List.getElem?_append_right (Nat.le_refl _), Nat.sub_self]
  rfl

/-! ## The law -/

/-- A text is a template exactly when each of its colons has a name character behind it.
Any other text is refused with the byte where its first bare colon stands. -/
theorem a_text_is_refused_at_its_first_bare_colon (s : String) :
    ((∃ t, Template.parse s = .ok t) ↔
      ∀ i, s.toList[i]? = some ':' → NameAt s.toList (i + 1)) ∧
    ∀ e, Template.parse s = .error e ↔
      ∃ i position, FirstBareAt s.toList i ∧ position = byteLength (s.toList.take i) ∧
        position < (bytes s).length ∧ (bytes s)[position]? = some ':'.toUInt8 ∧
        e = .invalidDeclaration position := by
  refine ⟨?_, fun e => ?_⟩
  · rw [Template.exists_parse_eq_ok_iff]
    refine ⟨fun h i hc => ?_, fun h i hb => hb.2 (h i hb.1)⟩
    exact Classical.byContradiction fun hn => h i ⟨hc, hn⟩
  · rw [Template.parse_eq_error_iff]
    refine ⟨?_, ?_⟩
    · rintro ⟨i, hi, rfl⟩
      have hbyte := getElem?_bytesOf_colon hi.bare.1
      exact ⟨i, _, hi, rfl, (List.getElem?_eq_some_iff.1 hbyte).1, hbyte, rfl⟩
    · rintro ⟨i, position, hi, rfl, -, -, rfl⟩
      exact ⟨i, hi, rfl⟩

end PathTemplate
