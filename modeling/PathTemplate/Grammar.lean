-- The grammar of templates, one rule at a time. A rule is matched at one
-- place of a text and takes the longest run that it can. What it matched is
-- a tree of spans, counted in bytes.
--
--   template   the whole text: any number of params, danglings and literals
--   param      a colon and a name
--   name       one or more name characters
--   dangling   a colon
--   literal    one or more characters that are not a colon
--
-- Within a template a dangling is tried only where no param matches.
import PathTemplate.Text.Utf8
import PathTemplate.Token

namespace PathTemplate.Grammar

open Text (byteLength)

inductive Rule where
  | template
  | param
  | name
  | dangling
  | literal
  | endOfInput
  deriving Repr, DecidableEq

/-- What a rule matched: the bytes from `start` up to `stop`, and the matches
of the rules inside it. -/
structure Tree where
  rule : Rule
  start : Nat
  stop : Nat
  inner : List Tree
  deriving Repr

/-- A place in a text: the bytes before it and the characters after it. -/
structure Place where
  offset : Nat
  rest : List Char
  deriving Repr, DecidableEq

/-- The answer of a rule at a place: its match and the place behind it, or
the place, in bytes, of the furthest rule that failed. -/
abbrev Answer := Except Nat (Tree × Place)

/-! ## Single rules -/

def matchRun (rule : Rule) (inClass : Char → Bool) (p : Place) : Answer :=
  let run := p.rest.takeWhile inClass
  let stop := p.offset + byteLength run
  if run = [] then .error p.offset
  else .ok (⟨rule, p.offset, stop, []⟩, ⟨stop, p.rest.dropWhile inClass⟩)

def matchName : Place → Answer := matchRun .name isNameChar

def matchLiteral : Place → Answer := matchRun .literal isLiteralChar

def matchDangling : Place → Answer
  | ⟨offset, ':' :: rest⟩ => .ok (⟨.dangling, offset, offset + 1, []⟩, ⟨offset + 1, rest⟩)
  | ⟨offset, _⟩ => .error offset

/-- A param needs its name: a colon without one fails behind the colon, where
the name should be. -/
def matchParam : Place → Answer
  | ⟨offset, ':' :: rest⟩ =>
    (matchName ⟨offset + 1, rest⟩).map fun (name, behind) =>
      (⟨.param, offset, name.stop, [name]⟩, behind)
  | ⟨offset, _⟩ => .error offset

def matchEnd : Place → Answer
  | ⟨offset, []⟩ => .ok (⟨.endOfInput, offset, offset, []⟩, ⟨offset, []⟩)
  | ⟨offset, _⟩ => .error offset

/-! ## Templates -/

/-- One piece of a template: the first of the three rules that matches. -/
def piece? (p : Place) : Option (Tree × Place) :=
  (matchParam p).toOption <|> (matchDangling p).toOption <|> (matchLiteral p).toOption

theorem matchRun_shrinks {rule : Rule} {inClass : Char → Bool} {p q : Place} {t : Tree}
    (h : matchRun rule inClass p = .ok (t, q)) : q.rest.length < p.rest.length := by
  simp only [matchRun] at h
  split at h
  · simp at h
  · next hrun =>
    simp only [Except.ok.injEq, Prod.mk.injEq] at h
    obtain ⟨-, rfl⟩ := h
    have hpos := List.length_pos_iff.2 hrun
    have hlen : (p.rest.takeWhile inClass ++ p.rest.dropWhile inClass).length = p.rest.length := by
      rw [List.takeWhile_append_dropWhile]
    rw [List.length_append] at hlen
    simp only
    omega

theorem matchDangling_shrinks {p q : Place} {t : Tree} (h : matchDangling p = .ok (t, q)) :
    q.rest.length < p.rest.length := by
  unfold matchDangling at h
  split at h
  · simp only [Except.ok.injEq, Prod.mk.injEq] at h
    obtain ⟨-, rfl⟩ := h
    simp
  · simp at h

theorem matchParam_shrinks {p q : Place} {t : Tree} (h : matchParam p = .ok (t, q)) :
    q.rest.length < p.rest.length := by
  unfold matchParam at h
  split at h
  · next offset rest =>
    cases hn : matchName ⟨offset + 1, rest⟩ with
    | error => simp [hn, Except.map] at h
    | ok found =>
      obtain ⟨name, behind⟩ := found
      simp only [hn, Except.map, Except.ok.injEq, Prod.mk.injEq] at h
      obtain ⟨-, rfl⟩ := h
      exact Nat.lt_succ_of_lt (matchRun_shrinks hn)
  · simp at h

theorem toOption_eq_some {α β : Type} {x : Except α β} {b : β} (h : x.toOption = some b) :
    x = .ok b := by
  cases x with
  | error => simp [Except.toOption] at h
  | ok => simpa [Except.toOption] using h

/-- No piece is empty, so the pieces of a text come to an end. -/
theorem piece?_shrinks {p q : Place} {t : Tree} (h : piece? p = some (t, q)) :
    q.rest.length < p.rest.length := by
  simp only [piece?, Option.orElse_eq_orElse, Option.orElse_eq_or, Option.or_eq_some_iff] at h
  rcases h with h | ⟨-, h | ⟨-, h⟩⟩
  · exact matchParam_shrinks (toOption_eq_some h)
  · exact matchDangling_shrinks (toOption_eq_some h)
  · exact matchRun_shrinks (toOption_eq_some h)

/-- The pieces from a place on, and the place behind the last of them. -/
def pieces (p : Place) : List Tree × Place :=
  match _h : piece? p with
  | none => ([], p)
  | some (tree, behind) =>
    let (trees, last) := pieces behind
    (tree :: trees, last)
termination_by p.rest.length
decreasing_by exact piece?_shrinks ‹_›

def matchTemplate (p : Place) : Answer :=
  let (trees, behind) := pieces p
  (matchEnd behind).map fun (last, q) => (⟨.template, p.offset, q.offset, trees ++ [last]⟩, q)

/-! ## Any rule -/

def Rule.matchAt : Rule → Place → Answer
  | .template => matchTemplate
  | .param => matchParam
  | .name => matchName
  | .dangling => matchDangling
  | .literal => matchLiteral
  | .endOfInput => matchEnd

def Rule.match? (rule : Rule) (text : String) : Except Nat Tree :=
  (rule.matchAt ⟨0, text.toList⟩).map Prod.fst

end PathTemplate.Grammar
