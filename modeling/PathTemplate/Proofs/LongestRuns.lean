-- What each rule of the grammar takes alone: the longest part at the start of a text
-- whose characters are all of one class. Where there is none the rule fails at the
-- start, and a param without its name fails behind the colon.
import Mathlib
import PathTemplate.Proofs.Pieces

namespace PathTemplate.Grammar

open Text (byteLength)

/-! ## Classes of characters -/

/-- The characters of a name, one by one. -/
def IsNameLetter (c : Char) : Prop :=
  ('A' ≤ c ∧ c ≤ 'Z') ∨ ('a' ≤ c ∧ c ≤ 'z') ∨ ('0' ≤ c ∧ c ≤ '9') ∨ c = '_'

theorem isNameChar_iff (c : Char) : isNameChar c = true ↔ IsNameLetter c := by
  simp only [isNameChar, IsNameLetter, Char.isAlphanum, Char.isAlpha, Char.isUpper, Char.isLower,
    Char.isDigit, Char.le_def, ge_iff_le, Bool.or_eq_true, Bool.and_eq_true, decide_eq_true_eq,
    beq_iff_eq, or_assoc]

theorem isLiteralChar_iff (c : Char) : isLiteralChar c = true ↔ c ≠ ':' := by
  simp [isLiteralChar]

/-! ## Longest runs -/

/-- The text begins with a character of the class. -/
def Begins (ofClass : Char → Prop) (cs : List Char) : Prop := ∃ c rest, cs = c :: rest ∧ ofClass c

/-- The longest part at the start of a text whose characters are all of the class. -/
structure Longest (ofClass : Char → Prop) (cs run : List Char) : Prop where
  isStart : run <+: cs
  all : ∀ c ∈ run, ofClass c
  longest : ∀ other, other <+: cs → (∀ c ∈ other, ofClass c) → other.length ≤ run.length

theorem Longest.unique {ofClass : Char → Prop} {cs a b : List Char} (ha : Longest ofClass cs a)
    (hb : Longest ofClass cs b) : a = b := by
  have hab : a <+: b := List.prefix_of_prefix_length_le ha.isStart hb.isStart
    (hb.longest a ha.isStart ha.all)
  exact hab.eq_of_length_le (ha.longest b hb.isStart hb.all)

section Classes

variable {ofClass : Char → Prop} {inClass : Char → Bool}

theorem begins_iff {cs : List Char} (hclass : ∀ c, inClass c = true ↔ ofClass c) :
    Begins ofClass cs ↔ cs.takeWhile inClass ≠ [] := by
  rw [Ne, ← stops_iff]
  cases cs with
  | nil => simp [Begins, Stops]
  | cons c rest => simp [Begins, Stops, ← hclass]

theorem longest_takeWhile (hclass : ∀ c, inClass c = true ↔ ofClass c) (cs : List Char) :
    Longest ofClass cs (cs.takeWhile inClass) where
  isStart := List.takeWhile_prefix inClass
  all c hc := (hclass c).1 (List.mem_takeWhile_imp hc)
  longest other hother hall := by
    obtain ⟨more, rfl⟩ := hother
    rw [List.takeWhile_append_of_pos fun c hc => (hclass c).2 (hall c hc)]
    simp

end Classes

/-! ## Answers -/

/-- The answer for the longest run of the class: the tree of this run, or a failure at this
place if the text does not begin with one. -/
structure TakesRun (answer : Except Nat Tree) (ofClass : Char → Prop) (cs : List Char)
    (tree : List Char → Tree) (place : Nat) : Prop where
  ok_iff : ∀ t, answer = .ok t ↔
    Begins ofClass cs ∧ ∃ run, Longest ofClass cs run ∧ t = tree run
  error_iff : ∀ position, answer = .error position ↔ ¬ Begins ofClass cs ∧ position = place

theorem takesRun_of_eq {answer : Except Nat Tree} {ofClass : Char → Prop} {inClass : Char → Bool}
    {cs : List Char} {tree : List Char → Tree} {place : Nat}
    (hclass : ∀ c, inClass c = true ↔ ofClass c)
    (h : answer = if cs.takeWhile inClass = [] then .error place
      else .ok (tree (cs.takeWhile inClass))) :
    TakesRun answer ofClass cs tree place := by
  have hbegins : Begins ofClass cs ↔ cs.takeWhile inClass ≠ [] := begins_iff hclass
  have hlongest := longest_takeWhile hclass cs
  by_cases hnone : cs.takeWhile inClass = []
  · rw [if_pos hnone] at h
    constructor <;> simp [h, hbegins, hnone, eq_comm]
  · rw [if_neg hnone] at h
    constructor
    · intro t
      rw [h, Except.ok.injEq]
      constructor
      · rintro rfl
        exact ⟨hbegins.2 hnone, _, hlongest, rfl⟩
      · rintro ⟨-, run, hrun, rfl⟩
        rw [hrun.unique hlongest]
    · simp [h, hbegins, hnone]

theorem takesRun_matchRun {rule : Rule} {ofClass : Char → Prop} {inClass : Char → Bool}
    (hrule : rule.matchAt = matchRun rule inClass) (hclass : ∀ c, inClass c = true ↔ ofClass c)
    (s : String) :
    TakesRun (rule.match? s) ofClass s.toList (fun run => ⟨rule, 0, byteLength run, []⟩) 0 := by
  apply takesRun_of_eq hclass
  unfold Rule.match?
  rw [hrule, matchRun]
  split <;> simp [Except.map]

/-- Behind a colon, a param takes its name as the rule for names does. -/
theorem takesRun_matchParam {s : String} {rest : List Char} (hs : s.toList = ':' :: rest) :
    TakesRun (Rule.param.match? s) IsNameLetter rest
      (fun run => ⟨.param, 0, 1 + byteLength run, [⟨.name, 1, 1 + byteLength run, []⟩]⟩) 1 := by
  apply takesRun_of_eq isNameChar_iff
  unfold Rule.match?
  rw [hs, Rule.matchAt, matchParam, matchName, matchRun]
  split <;> simp_all [Except.map]

/-! ## The law -/

/-- A rule alone takes the longest run of its class at the start of the text, and nothing
else. A name is a run of letters, digits and underscores, and a literal of all but colons. A
dangling is one colon, and a param a colon with the name behind it. A rule that does not match
fails at the start, but a param without its name fails behind the colon. -/
theorem each_rule_takes_its_longest_run (s : String) :
    TakesRun (Rule.name.match? s) IsNameLetter s.toList
      (fun run => ⟨.name, 0, byteLength run, []⟩) 0 ∧
    TakesRun (Rule.literal.match? s) (· ≠ ':') s.toList
      (fun run => ⟨.literal, 0, byteLength run, []⟩) 0 ∧
    (∀ rest, s.toList = ':' :: rest →
      Rule.dangling.match? s = .ok ⟨.dangling, 0, 1, []⟩ ∧
      TakesRun (Rule.param.match? s) IsNameLetter rest
        (fun run => ⟨.param, 0, 1 + byteLength run, [⟨.name, 1, 1 + byteLength run, []⟩]⟩) 1) ∧
    ((∀ rest, s.toList ≠ ':' :: rest) →
      Rule.dangling.match? s = .error 0 ∧ Rule.param.match? s = .error 0) := by
  refine ⟨takesRun_matchRun rfl isNameChar_iff s, takesRun_matchRun rfl isLiteralChar_iff s,
    ?_, ?_⟩
  · intro rest hs
    refine ⟨?_, takesRun_matchParam hs⟩
    unfold Rule.match?
    rw [hs]
    rfl
  · intro hcolon
    unfold Rule.match?
    constructor
    · rw [Rule.matchAt, matchDangling_of_no_colon hcolon]
      rfl
    · rw [Rule.matchAt, matchParam_of_no_colon hcolon]
      rfl

-- A name ends at the first letter beyond ASCII, which a literal counts as two bytes.
example : Rule.param.match? ":a_1é:" = .ok ⟨.param, 0, 4, [⟨.name, 1, 4, []⟩]⟩ ∧
    Rule.literal.match? "é1:" = .ok ⟨.literal, 0, 3, []⟩ ∧
    Rule.param.match? ":é" = .error 1 := by
  cbv

end PathTemplate.Grammar
