-- Two texts, one behind the other. Their tokens stay as they are, but for the
-- last one of the first text, which goes on into the second. A bare colon stays
-- bare, unless it ends the first text and gets a name from the second.
import Mathlib
import PathTemplate.Proofs.Canonical
import PathTemplate.Proofs.Colons

namespace PathTemplate

open Text (byteLength)

/-! ## Joined tokens -/

namespace Token

/-- These characters as a literal, or no token where there are none. -/
def leftover (text : List Char) : List Token :=
  if text = [] then [] else [.literal (String.ofList text)]

/-- A token in front of the tokens of a second text. Two literals are one. A name takes the
name characters that a literal behind it begins with, and what is left is a literal. -/
def joinOne : Token → List Token → List Token
  | .literal a, .literal b :: rest => .literal (a ++ b) :: rest
  | .placeholder name, .literal text :: rest =>
    .placeholder (name ++ String.ofList (text.toList.takeWhile isNameChar)) ::
      (leftover (text.toList.dropWhile isNameChar) ++ rest)
  | token, tokens => token :: tokens

/-- The tokens of two texts, where the last one of the first text meets the second text. -/
def join : List Token → List Token → List Token
  | [], second => second
  | [last], second => last.joinOne second
  | token :: next :: rest, second => token :: join (next :: rest) second

theorem flatMap_written_leftover (text : List Char) :
    (leftover text).flatMap written = text := by
  unfold leftover
  split
  · next h => simp [h]
  · simp [written]

theorem flatMap_written_joinOne (token : Token) (tokens : List Token) :
    (token.joinOne tokens).flatMap written = token.written ++ tokens.flatMap written := by
  unfold joinOne
  split
  · simp [written]
  · next name text rest =>
    rw [List.flatMap_cons, List.flatMap_append, flatMap_written_leftover]
    simp only [written, String.toList_append, String.toList_ofList, List.flatMap_cons,
      List.cons_append, List.append_assoc]
    rw [← List.append_assoc (text.toList.takeWhile isNameChar), List.takeWhile_append_dropWhile]
  · simp

/-- Joined tokens stand for the joined text. -/
theorem flatMap_written_join (first second : List Token) :
    (join first second).flatMap written = first.flatMap written ++ second.flatMap written := by
  fun_induction join first second with
  | case1 => simp
  | case2 => simp [flatMap_written_joinOne]
  | case3 => simp [*]

end Token

/-! ## Joined tokens are canonical -/

open Token (WellFormed written leftover joinOne join)

theorem stops_colon_cons (t : Token) (rest : List Char) : Stops t.inClass (':' :: rest) := by
  intro c hc
  cases hc
  exact t.inClass_colon

/-- Only a colon ends a literal, and it ends a name, too. -/
theorem Stops.of_literal {rest : List Char} (h : Stops isLiteralChar rest) :
    Stops isNameChar rest := by
  intro c hc
  by_contra hname
  have hliteral := isLiteralChar_of_isNameChar (Bool.eq_true_of_not_eq_false hname)
  rw [h c hc] at hliteral
  cases hliteral

theorem Token.WellFormed.written_ne_nil {t : Token} (h : t.WellFormed) : t.written ≠ [] := by
  cases t with
  | literal text => exact h.ne_nil
  | placeholder name => exact List.cons_ne_nil _ _

theorem canonical_leftover_append {text : List Char} {tokens : List Token}
    (h : ∀ c ∈ text, isLiteralChar c = true)
    (hstops : Stops isLiteralChar (tokens.flatMap written)) (htokens : Canonical tokens) :
    Canonical (leftover text ++ tokens) := by
  unfold leftover
  split
  · exact htokens
  · next hne =>
    rw [List.singleton_append, canonical_cons_iff, WellFormed, String.toList_ofList]
    exact ⟨⟨hne, h⟩, hstops, htokens⟩

theorem canonical_joinOne {token : Token} {tokens : List Token} (h : token.WellFormed)
    (htokens : Canonical tokens) : Canonical (token.joinOne tokens) := by
  cases tokens with
  | nil => cases token <;> exact canonical_cons_iff.2 ⟨h, by simp [Stops], htokens⟩
  | cons next rest =>
    obtain ⟨hnext, hstops, hrest⟩ := canonical_cons_iff.1 htokens
    cases next with
    | placeholder => cases token <;> exact canonical_cons_iff.2 ⟨h, stops_colon_cons _ _, htokens⟩
    | literal text =>
      cases token with
      | literal a =>
        refine canonical_cons_iff.2 ⟨?_, hstops, hrest⟩
        rw [WellFormed, String.toList_append]
        exact IsRun.append h hnext.all
      | placeholder name =>
        refine canonical_cons_iff.2 ⟨?_, ?_, canonical_leftover_append ?_ hstops hrest⟩
        · rw [WellFormed, String.toList_append, String.toList_ofList]
          exact IsRun.append h (List.all_eq_true.1 List.all_takeWhile)
        · rw [List.flatMap_append, Token.flatMap_written_leftover]
          -- A name that takes all of the literal stops where the literal did.
          by_cases hleft : text.toList.dropWhile isNameChar = []
          · rw [hleft, List.nil_append]
            exact hstops.of_literal
          · exact (stops_append_iff hleft).2 (stops_dropWhile _ _)
        · intro c hc
          exact hnext.all c ((List.dropWhile_sublist _).mem hc)

theorem canonical_join {first second : List Token} (hfirst : Canonical first)
    (hsecond : Canonical second) : Canonical (join first second) := by
  fun_induction join first second with
  | case1 second => exact hsecond
  | case2 last second => exact canonical_joinOne (canonical_cons_iff.1 hfirst).1 hsecond
  | case3 token next rest second ih =>
    obtain ⟨htoken, hstops, hrest⟩ := canonical_cons_iff.1 hfirst
    have hnext := (canonical_cons_iff.1 hrest).1
    refine canonical_cons_iff.2 ⟨htoken, ?_, ih hrest hsecond⟩
    -- The next token is not empty, so nothing of the second text comes near this one.
    rw [Token.flatMap_written_join, stops_append_iff]
    · exact hstops
    · exact List.append_ne_nil_of_left_ne_nil hnext.written_ne_nil _

/-! ## Bare colons of joined texts -/

section Colons

variable {a b : List Char}

theorem NameAt.append {i : Nat} (h : NameAt a i) (b : List Char) : NameAt (a ++ b) i := by
  obtain ⟨c, hc, hname⟩ := h
  refine ⟨c, ?_, hname⟩
  rw [List.getElem?_append_left (List.getElem?_eq_some_iff.1 hc).1, hc]

/-- Where a colon of the first text has its name, it keeps it. -/
theorem passed_of_not_bareAt (h : ∀ i, ¬ BareAt a i) (b : List Char) : Passed a b := by
  intro i hi hbare
  have hc := hbare.1
  rw [List.getElem?_append_left hi] at hc
  refine h i ⟨hc, fun hname => hbare.2 (hname.append b)⟩

theorem nameAt_append_iff {i : Nat} (hi : i < a.length) :
    NameAt (a ++ b) i ↔ NameAt a i := by
  simp only [NameAt, List.getElem?_append_left hi]

/-- The first bare colon of a text is that of the joined text, if it is not the last
character, or if the second text begins with no name character. -/
theorem FirstBareAt.append {i : Nat} (h : FirstBareAt a i)
    (hseam : i + 1 < a.length ∨ Stops isNameChar b) : FirstBareAt (a ++ b) i := by
  obtain ⟨hi, -⟩ := List.getElem?_eq_some_iff.1 h.bare.1
  refine ⟨⟨?_, ?_⟩, ?_⟩
  · rw [List.getElem?_append_left hi]
    exact h.bare.1
  · by_cases hlast : i + 1 < a.length
    · rw [nameAt_append_iff hlast]
      exact h.bare.2
    · rintro ⟨c, hc, hname⟩
      rw [List.getElem?_append_right (by omega), show i + 1 - a.length = 0 by omega,
        ← List.head?_eq_getElem?] at hc
      rw [hseam.resolve_left hlast c hc] at hname
      cases hname
  · intro j hj hc
    rw [List.getElem?_append_left (by omega)] at hc
    exact (h.named_before j hj hc).append b

end Colons

/-! ## The law of joined texts -/

namespace Template

theorem parse_append_of_ok {a b : String} {t u : Template} (ha : parse a = .ok t)
    (hb : parse b = .ok u) : parse (a ++ b) = .ok ⟨a ++ b, join t.tokens u.tokens⟩ := by
  have hreads := reads_of_parse ha
  have hreads' := reads_of_parse hb
  have hjoin := canonical_join (canonical_of_reads hreads _ rfl) (canonical_of_reads hreads' _ rfl)
  rw [parse_eq_ok_iff]
  refine ⟨?_, rfl⟩
  rw [String.toList_append, ← flatMap_written_of_reads hreads _ rfl,
    ← flatMap_written_of_reads hreads' _ rfl, ← Token.flatMap_written_join]
  exact reads_iff.1 (reads_of_canonical hjoin 0)

theorem parse_append_of_error_right {a b : String} {t : Template} {q : Nat}
    (ha : parse a = .ok t) (hb : parse b = .error (.invalidDeclaration q)) :
    parse (a ++ b) = .error (.invalidDeclaration (byteLength a.toList + q)) := by
  obtain ⟨j, hj, hq⟩ := parse_eq_error_iff.1 hb
  cases hq
  rw [parse_eq_error_iff, String.toList_append]
  have hpassed := passed_of_not_bareAt (not_bareAt_of_parse ha) b.toList
  refine ⟨_, hpassed.firstBareAt hj, ?_⟩
  rw [List.take_length_add_append, Text.byteLength_append]

theorem parse_append_of_error_left {a b : String} {p : Nat}
    (ha : parse a = .error (.invalidDeclaration p))
    (hseam : p ≠ byteLength a.toList.dropLast ∨ Stops isNameChar b.toList) :
    parse (a ++ b) = .error (.invalidDeclaration p) := by
  obtain ⟨i, hi, hp⟩ := parse_eq_error_iff.1 ha
  cases hp
  obtain ⟨hlt, -⟩ := List.getElem?_eq_some_iff.1 hi.bare.1
  rw [parse_eq_error_iff, String.toList_append]
  refine ⟨i, hi.append ?_, ?_⟩
  · refine hseam.imp_left fun hne => ?_
    by_contra hlast
    rw [List.dropLast_eq_take, show a.toList.length - 1 = i by omega] at hne
    exact hne rfl
  · rw [List.take_append_of_le_length (by omega)]

end Template

/-- Reading two texts as one. Templates give the joined tokens of both. A fault of the second
text is moved by the bytes of the first one. A fault of the first text stays, unless it is
a colon at its end that gets its name from the second text. -/
theorem reading_goes_on_from_text_to_text (a b : String) :
    (∀ t u, Template.parse a = .ok t → Template.parse b = .ok u →
      Template.parse (a ++ b) = .ok ⟨a ++ b, join t.tokens u.tokens⟩) ∧
    (∀ t q, Template.parse a = .ok t → Template.parse b = .error (.invalidDeclaration q) →
      Template.parse (a ++ b) = .error (.invalidDeclaration (byteLength a.toList + q))) ∧
    ∀ p, Template.parse a = .error (.invalidDeclaration p) →
      p ≠ byteLength a.toList.dropLast ∨ Stops isNameChar b.toList →
      Template.parse (a ++ b) = .error (.invalidDeclaration p) :=
  ⟨fun _ _ => Template.parse_append_of_ok, fun _ _ => Template.parse_append_of_error_right,
    fun _ => Template.parse_append_of_error_left⟩

/-- A name goes on behind the seam, a fault is found behind it, and one stays in front. -/
theorem reading_goes_on_from_text_to_text_at_three_seams :
    (Template.parse "/é:a" = .ok ⟨"/é:a", [.literal "/é", .placeholder "a"]⟩ ∧
      Template.parse "b/c:d" = .ok ⟨"b/c:d", [.literal "b/c", .placeholder "d"]⟩ ∧
      Template.parse ("/é:a" ++ "b/c:d") = .ok ⟨"/é:a" ++ "b/c:d",
        [.literal "/é", .placeholder "ab", .literal "/c", .placeholder "d"]⟩) ∧
    (Template.parse "b:" = .error (.invalidDeclaration 1) ∧
      Template.parse ("/é:a" ++ "b:") = .error (.invalidDeclaration 6)) ∧
    (Template.parse "é:" = .error (.invalidDeclaration 2) ∧ Stops isNameChar "/b".toList ∧
      Template.parse ("é:" ++ "/b") = .error (.invalidDeclaration 2)) := by
  have ha : Template.parse "/é:a" = .ok ⟨"/é:a", [.literal "/é", .placeholder "a"]⟩ := by cbv
  have hb : Template.parse "b/c:d" = .ok ⟨"b/c:d", [.literal "b/c", .placeholder "d"]⟩ := by cbv
  have hright : Template.parse "b:" = .error (.invalidDeclaration 1) := by cbv
  have hleft : Template.parse "é:" = .error (.invalidDeclaration 2) := by cbv
  have hstops : Stops isNameChar "/b".toList := by decide
  refine ⟨⟨ha, hb, ?_⟩, ⟨hright, ?_⟩, hleft, hstops, ?_⟩
  · exact (reading_goes_on_from_text_to_text "/é:a" "b/c:d").1 _ _ ha hb
  · exact (reading_goes_on_from_text_to_text "/é:a" "b:").2.1 _ _ ha hright
  · exact (reading_goes_on_from_text_to_text "é:" "/b").2.2 _ hleft (.inr hstops)

-- The colon at the end of the first text is not bare any more.
example : Template.parse ("é:" ++ "b") = .ok ⟨"é:b", [.literal "é", .placeholder "b"]⟩ := by
  cbv

end PathTemplate
