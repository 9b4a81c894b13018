-- How the grammar cuts a text. Any text is cut into pieces, from its first
-- character to its last one. Each piece is what its rule takes alone, in a text
-- that begins where the piece does. The parser reads the same pieces, up to the
-- first dangling colon.
import Mathlib
import PathTemplate.Grammar
import PathTemplate.Proofs.Reading

namespace PathTemplate.Grammar

open Text (between? byteLength dropBytes?)

/-! ## Trees further on -/

mutual

/-- The tree, so many bytes further on. -/
def Tree.later (n : Nat) : Tree → Tree
  | ⟨rule, start, stop, inner⟩ => ⟨rule, start + n, stop + n, laterAll n inner⟩

def laterAll (n : Nat) : List Tree → List Tree
  | [] => []
  | t :: ts => t.later n :: laterAll n ts

end

theorem later_rule (n : Nat) (t : Tree) : (t.later n).rule = t.rule := by
  cases t
  rfl

/-- The trees stand side by side, the first one at `start`, and the last one ends at
`stop`. None of them is empty. -/
def Tiles : Nat → List Tree → Nat → Prop
  | start, [], stop => start = stop
  | start, t :: ts, stop => t.start = start ∧ start < t.stop ∧ Tiles t.stop ts stop

/-! ## Single rules -/

section Rules

variable {rule : Rule} {inClass : Char → Bool} {run name rest : List Char}

theorem matchRun_run (h : IsRun inClass run) (hrest : Stops inClass rest) (offset : Nat) :
    matchRun rule inClass ⟨offset, run ++ rest⟩ =
      .ok (⟨rule, offset, offset + byteLength run, []⟩, ⟨offset + byteLength run, rest⟩) := by
  unfold matchRun
  simp only [takeWhile_run h.all hrest, dropWhile_run h.all hrest, if_neg h.ne_nil]

theorem matchRun_stops (h : Stops inClass rest) (offset : Nat) :
    matchRun rule inClass ⟨offset, rest⟩ = .error offset := by
  unfold matchRun
  simp only [stops_iff.1 h, if_true]

theorem matchParam_named (h : IsRun isNameChar name) (hrest : Stops isNameChar rest)
    (offset : Nat) :
    matchParam ⟨offset, ':' :: name ++ rest⟩ =
      .ok (⟨.param, offset, offset + byteLength (':' :: name),
        [⟨.name, offset + 1, offset + byteLength (':' :: name), []⟩]⟩,
        ⟨offset + byteLength (':' :: name), rest⟩) := by
  rw [List.cons_append, matchParam, matchName, matchRun_run h hrest, byteLength_colon_cons,
    Nat.add_assoc]
  rfl

/-- A colon without a name fails behind the colon. -/
theorem matchParam_bare (h : Stops isNameChar rest) (offset : Nat) :
    matchParam ⟨offset, ':' :: rest⟩ = .error (offset + 1) := by
  rw [matchParam, matchName, matchRun_stops h]
  rfl

theorem matchParam_of_no_colon {cs : List Char} (h : ∀ rest, cs ≠ ':' :: rest) (offset : Nat) :
    matchParam ⟨offset, cs⟩ = .error offset := by
  unfold matchParam
  split
  · next heq =>
    cases heq
    exact absurd rfl (h _)
  · next heq =>
    cases heq
    rfl

theorem matchDangling_of_no_colon {cs : List Char} (h : ∀ rest, cs ≠ ':' :: rest)
    (offset : Nat) : matchDangling ⟨offset, cs⟩ = .error offset := by
  unfold matchDangling
  split
  · next heq =>
    cases heq
    exact absurd rfl (h _)
  · next heq =>
    cases heq
    rfl

end Rules

/-! ## One piece -/

/-- What a text behind so many bytes begins with, the rest of the text, and the tree of
the piece. -/
inductive Piece (offset : Nat) : List Char → List Char → Tree → Prop
  | param {name rest} : IsRun isNameChar name → Stops isNameChar rest →
      Piece offset (':' :: name) rest ⟨.param, offset, offset + byteLength (':' :: name),
        [⟨.name, offset + 1, offset + byteLength (':' :: name), []⟩]⟩
  | dangling {rest} : Stops isNameChar rest →
      Piece offset [':'] rest ⟨.dangling, offset, offset + byteLength [':'], []⟩
  | literal {text rest} : IsRun isLiteralChar text → Stops isLiteralChar rest →
      Piece offset text rest ⟨.literal, offset, offset + byteLength text, []⟩

/-- A text that is not empty begins with a piece. -/
theorem exists_piece (offset : Nat) {cs : List Char} (h : cs ≠ []) :
    ∃ run rest t, cs = run ++ rest ∧ Piece offset run rest t := by
  cases cs with
  | nil => exact absurd rfl h
  | cons c cs =>
    by_cases hc : c = ':'
    · subst hc
      by_cases hname : cs.takeWhile isNameChar = []
      · exact ⟨[':'], cs, _, rfl, .dangling (stops_iff.2 hname)⟩
      · refine ⟨':' :: cs.takeWhile isNameChar, cs.dropWhile isNameChar, _, ?_,
          .param (isRun_takeWhile hname) (stops_dropWhile _ cs)⟩
        rw [List.cons_append, List.takeWhile_append_dropWhile]
    · have hrun : (c :: cs).takeWhile isLiteralChar ≠ [] := by
        simp [List.takeWhile_cons, isLiteralChar, hc]
      exact ⟨_, _, _, List.takeWhile_append_dropWhile.symm,
        .literal (isRun_takeWhile hrun) (stops_dropWhile _ _)⟩

namespace Piece

variable {offset : Nat} {run rest : List Char} {t : Tree}

theorem start_eq (h : Piece offset run rest t) : t.start = offset := by
  cases h <;> rfl

theorem stop_eq (h : Piece offset run rest t) : t.stop = offset + byteLength run := by
  cases h <;> rfl

theorem rule_mem (h : Piece offset run rest t) :
    t.rule = .param ∨ t.rule = .dangling ∨ t.rule = .literal := by
  cases h <;> simp

theorem ne_nil (h : Piece offset run rest t) : run ≠ [] := by
  cases h with
  | param => exact List.cons_ne_nil _ _
  | dangling => exact List.cons_ne_nil _ _
  | literal htext => exact htext.ne_nil

/-- The rule of a piece takes the piece, and no more of the text. -/
theorem matchAt_eq (h : Piece offset run rest t) :
    t.rule.matchAt ⟨offset, run ++ rest⟩ = .ok (t, ⟨offset + byteLength run, rest⟩) := by
  cases h with
  | param hname hrest => exact matchParam_named hname hrest offset
  | dangling => rfl
  | literal htext hrest => exact matchRun_run htext hrest offset

theorem matchParam_eq_error (h : Piece offset run rest t) (ht : t.rule = .dangling) :
    matchParam ⟨offset, run ++ rest⟩ = .error (offset + 1) := by
  cases h with
  | dangling hrest => exact matchParam_bare hrest offset
  | param => cases ht
  | literal => cases ht

/-- Within a template the piece is the first of the three that matches. -/
theorem piece?_eq (h : Piece offset run rest t) :
    piece? ⟨offset, run ++ rest⟩ = some (t, ⟨offset + byteLength run, rest⟩) := by
  unfold piece?
  cases h with
  | param hname hrest =>
    rw [matchParam_named hname hrest]
    rfl
  | dangling hrest =>
    rw [List.singleton_append, matchParam_bare hrest]
    rfl
  | literal htext hrest =>
    obtain ⟨c, cs, rfl⟩ := List.exists_cons_of_ne_nil htext.ne_nil
    have hc : c ≠ ':' := by simpa [isLiteralChar] using htext.all c List.mem_cons_self
    have hcolon : ∀ behind, c :: cs ++ rest ≠ ':' :: behind := by simp [hc]
    rw [matchLiteral, matchRun_run htext hrest, matchParam_of_no_colon hcolon,
      matchDangling_of_no_colon hcolon]
    rfl

/-- What stands in front of a piece only moves its tree. -/
theorem at_zero (h : Piece offset run rest t) : ∃ u, Piece 0 run rest u ∧ t = u.later offset := by
  cases h with
  | param hname hrest =>
    refine ⟨_, .param hname hrest, ?_⟩
    simp [Tree.later, laterAll, Nat.add_comm]
  | dangling hrest =>
    refine ⟨_, .dangling hrest, ?_⟩
    simp [Tree.later, laterAll, Nat.add_comm]
  | literal htext hrest =>
    refine ⟨_, .literal htext hrest, ?_⟩
    simp [Tree.later, laterAll, Nat.add_comm]

end Piece

/-! ## All pieces -/

/-- How a text behind so many bytes is cut into pieces. -/
inductive Cuts : Nat → List Char → List Tree → Prop
  | done {offset} : Cuts offset [] []
  | next {offset run rest t trees} : Piece offset run rest t →
      Cuts (offset + byteLength run) rest trees → Cuts offset (run ++ rest) (t :: trees)

/-- The grammar cuts every text, up to its end. -/
theorem cuts_pieces (p : Place) :
    Cuts p.offset p.rest (pieces p).1 ∧ (pieces p).2 = ⟨p.offset + byteLength p.rest, []⟩ := by
  fun_induction pieces p with
  | case1 p hnone =>
    obtain ⟨offset, cs⟩ := p
    by_cases hcs : cs = []
    · subst hcs
      exact ⟨.done, rfl⟩
    · -- A text that is not empty begins with a piece, so one would have been found.
      obtain ⟨run, rest, t, rfl, hpiece⟩ := exists_piece offset hcs
      rw [hpiece.piece?_eq] at hnone
      cases hnone
  | case2 p t behind hsome trees last hrec ih =>
    obtain ⟨offset, cs⟩ := p
    have hcs : cs ≠ [] := by
      rintro rfl
      cases hsome
    obtain ⟨run, rest, u, rfl, hpiece⟩ := exists_piece offset hcs
    rw [hpiece.piece?_eq] at hsome
    cases hsome
    simp only [hrec] at ih
    refine ⟨.next hpiece ih.1, ?_⟩
    rw [ih.2, Text.byteLength_append, Nat.add_assoc]

/-- A template is its pieces, and the end of the text behind them. -/
theorem exists_cuts (s : String) :
    ∃ trees, Cuts 0 s.toList trees ∧
      Rule.template.match? s = .ok ⟨.template, 0, byteLength s.toList,
        trees ++ [⟨.endOfInput, byteLength s.toList, byteLength s.toList, []⟩]⟩ := by
  obtain ⟨hcuts, hend⟩ := cuts_pieces ⟨0, s.toList⟩
  refine ⟨_, hcuts, ?_⟩
  rw [Nat.zero_add] at hend
  simp only [Rule.match?, Rule.matchAt, matchTemplate, hend, matchEnd, Except.map]

namespace Cuts

variable {offset : Nat} {cs : List Char} {trees : List Tree}

theorem tiles (h : Cuts offset cs trees) : Tiles offset trees (offset + byteLength cs) := by
  induction h with
  | done => exact rfl
  | next hpiece _ ih =>
    rw [Text.byteLength_append, ← Nat.add_assoc]
    refine ⟨hpiece.start_eq, ?_, ?_⟩
    · have hpos := Text.byteLength_pos hpiece.ne_nil
      rw [hpiece.stop_eq]
      omega
    · rw [hpiece.stop_eq]
      exact ih

/-- Each tree is that of a piece which the text has at its place. -/
theorem exists_of_mem (h : Cuts offset cs trees) {t : Tree} (ht : t ∈ trees) :
    ∃ before run rest, cs = before ++ run ++ rest ∧
      Piece (offset + byteLength before) run rest t := by
  induction h with
  | done => cases ht
  | @next offset run rest u trees hpiece _ ih =>
    rcases List.mem_cons.1 ht with rfl | ht
    · exact ⟨[], run, rest, rfl, hpiece⟩
    · obtain ⟨before, run', rest', rfl, hpiece'⟩ := ih ht
      refine ⟨run ++ before, run', rest', by simp, ?_⟩
      rwa [Text.byteLength_append, ← Nat.add_assoc]

end Cuts

/-! ## The law of the grammar -/

/-- The tree spans a part of the text, and its rule finds the same tree in the text that
begins with this part. A colon is left dangling only where it begins no placeholder. -/
def StandsAlone (s : String) (t : Tree) : Prop :=
  (∃ part, between? t.start t.stop s.toList = some part) ∧
  ∃ suffix u, dropBytes? t.start s.toList = some suffix ∧
    t.rule.match? (String.ofList suffix) = .ok u ∧ t = u.later t.start ∧
    (t.rule = .dangling → ∃ position, Rule.param.match? (String.ofList suffix) = .error position)

theorem Piece.standsAlone {before run rest : List Char} {t : Tree}
    (h : Piece (byteLength before) run rest t) :
    StandsAlone (String.ofList (before ++ run ++ rest)) t := by
  obtain ⟨u, hu, hlater⟩ := h.at_zero
  have hrule : t.rule = u.rule := by rw [hlater, later_rule]
  unfold StandsAlone
  rw [h.start_eq, h.stop_eq, ← Text.byteLength_append, String.toList_ofList]
  refine ⟨⟨run, Text.between?_append before run rest⟩, run ++ rest, u, ?_, ?_, hlater, ?_⟩
  · rw [List.append_assoc, Text.dropBytes?_append]
  · rw [hrule, Rule.match?, String.toList_ofList, hu.matchAt_eq]
    rfl
  · intro ht
    refine ⟨1, ?_⟩
    rw [Rule.match?, String.toList_ofList, Rule.matchAt, hu.matchParam_eq_error (hrule ▸ ht)]
    rfl

/-- Every text is a template of the grammar, from its first byte to its last one. Params,
danglings and literals cover it side by side, each as its rule alone would find it. -/
theorem pieces_cover_the_text_as_their_rules_find_them (s : String) :
    ∃ trees, Rule.template.match? s = .ok ⟨.template, 0, byteLength s.toList,
        trees ++ [⟨.endOfInput, byteLength s.toList, byteLength s.toList, []⟩]⟩ ∧
      Tiles 0 trees (byteLength s.toList) ∧
      ∀ t ∈ trees,
        (t.rule = .param ∨ t.rule = .dangling ∨ t.rule = .literal) ∧ StandsAlone s t := by
  obtain ⟨trees, hcuts, hmatch⟩ := exists_cuts s
  have htiles := hcuts.tiles
  rw [Nat.zero_add] at htiles
  refine ⟨trees, hmatch, htiles, fun t ht => ?_⟩
  obtain ⟨before, run, rest, hs, hpiece⟩ := hcuts.exists_of_mem ht
  rw [Nat.zero_add] at hpiece
  refine ⟨hpiece.rule_mem, ?_⟩
  rw [← String.ofList_toList (s := s), hs]
  exact hpiece.standsAlone

-- Only the first of two colons is left dangling, behind a character of two bytes.
example : Rule.template.match? "é::a/" = .ok ⟨.template, 0, 6,
    [⟨.literal, 0, 2, []⟩, ⟨.dangling, 2, 3, []⟩, ⟨.param, 3, 5, [⟨.name, 4, 5, []⟩]⟩,
      ⟨.literal, 5, 6, []⟩, ⟨.endOfInput, 6, 6, []⟩]⟩ := by
  cbv

/-! ## What the parser makes of the pieces -/

/-- What a tree over this text is read as: a literal as the characters it spans, and a
placeholder as those behind its colon, where its name is. -/
inductive ReadAs (text : List Char) : Tree → Token → Prop
  | literal {start stop part} : between? start stop text = some part →
      ReadAs text ⟨.literal, start, stop, []⟩ (.literal (String.ofList part))
  | placeholder {start stop name} : between? (start + 1) stop text = some name →
      ReadAs text ⟨.param, start, stop, [⟨.name, start + 1, stop, []⟩]⟩
        (.placeholder (String.ofList name))

/-- A piece other than a dangling colon is a token in front of what the rest is read as. -/
theorem Piece.exists_token {before run rest : List Char} {t : Tree}
    (h : Piece (byteLength before) run rest t) (ht : t.rule ≠ .dangling) :
    ∃ token, ReadAs (before ++ run ++ rest) t token ∧
      ∀ result, Reads (byteLength before + byteLength run) rest result →
        Reads (byteLength before) (run ++ rest) (result.map (token :: ·)) := by
  cases h with
  | dangling => exact absurd rfl ht
  | @param name _ hname hrest =>
    refine ⟨.placeholder (String.ofList name), .placeholder ?_, fun _ hreads => .placeholder hname hrest hreads⟩
    have hpart := Text.between?_append (before ++ [':']) name rest
    simp only [Text.byteLength_append, List.append_assoc, List.singleton_append] at hpart
    rw [List.append_assoc]
    exact hpart
  | literal htext hrest =>
    refine ⟨.literal (String.ofList run), .literal ?_, fun _ hreads => .literal htext hrest hreads⟩
    rw [← Text.byteLength_append, Text.between?_append]

theorem Piece.reads_dangling {offset : Nat} {run rest : List Char} {t : Tree}
    (h : Piece offset run rest t) (ht : t.rule = .dangling) :
    Reads offset (run ++ rest) (.error (.invalidDeclaration t.start)) := by
  cases h with
  | dangling hrest => exact .bare hrest
  | param => cases ht
  | literal => cases ht

namespace Cuts

variable {offset : Nat} {before cs : List Char} {trees : List Tree}

/-- The first dangling colon ends the reading. -/
theorem reads_error {t : Tree} (h : Cuts offset cs trees) (hoffset : offset = byteLength before)
    (ht : trees.find? (·.rule = .dangling) = some t) :
    Reads offset cs (.error (.invalidDeclaration t.start)) := by
  induction h generalizing before with
  | done => cases ht
  | @next _ run _ u _ hpiece _ ih =>
    subst hoffset
    by_cases hu : u.rule = .dangling
    · rw [List.find?_cons_of_pos (by simpa using hu)] at ht
      cases ht
      exact hpiece.reads_dangling hu
    · rw [List.find?_cons_of_neg (by simpa using hu)] at ht
      obtain ⟨token, -, hreads⟩ := hpiece.exists_token hu
      exact hreads _ (ih (Text.byteLength_append before run).symm ht)

/-- Without a dangling colon, each piece is a token. -/
theorem reads_ok (h : Cuts offset cs trees) (hoffset : offset = byteLength before)
    (hnone : ∀ t ∈ trees, t.rule ≠ .dangling) :
    ∃ tokens, Reads offset cs (.ok tokens) ∧ List.Forall₂ (ReadAs (before ++ cs)) trees tokens := by
  induction h generalizing before with
  | done => exact ⟨[], .done, .nil⟩
  | @next _ run rest u _ hpiece _ ih =>
    subst hoffset
    obtain ⟨hu, hrest⟩ := List.forall_mem_cons.1 hnone
    obtain ⟨token, hread, hreads⟩ := hpiece.exists_token hu
    obtain ⟨tokens, hok, hall⟩ := ih (Text.byteLength_append before run).symm hrest
    rw [List.append_assoc] at hread hall
    exact ⟨token :: tokens, hreads _ hok, .cons hread hall⟩

theorem filter_eq (h : Cuts offset cs trees) :
    trees.filter (·.rule ≠ .endOfInput) = trees := by
  apply List.filter_eq_self.2
  intro t ht
  obtain ⟨_, _, _, -, hpiece⟩ := h.exists_of_mem ht
  rcases hpiece.rule_mem with hrule | hrule | hrule <;> simp [hrule]

theorem parse_eq {s : String} (h : Cuts 0 s.toList trees) :
    (∃ t, trees.find? (·.rule = .dangling) = some t ∧
      Template.parse s = .error (.invalidDeclaration t.start)) ∨
    (trees.find? (·.rule = .dangling) = none ∧
      ∃ tokens, Template.parse s = .ok ⟨s, tokens⟩ ∧
        List.Forall₂ (ReadAs s.toList) trees tokens) := by
  unfold Template.parse
  cases hfind : trees.find? (·.rule = .dangling) with
  | some t =>
    left
    refine ⟨t, rfl, ?_⟩
    rw [reads_iff.1 (h.reads_error (show 0 = byteLength [] from rfl) hfind)]
    rfl
  | none =>
    right
    have hnone : ∀ t ∈ trees, t.rule ≠ .dangling := by simpa using hfind
    obtain ⟨tokens, hok, hall⟩ := h.reads_ok (show 0 = byteLength [] from rfl) hnone
    refine ⟨rfl, tokens, ?_, hall⟩
    rw [reads_iff.1 hok]
    rfl

end Cuts

/-! ## The law of the parser -/

/-- The parser refuses a text exactly when the grammar has a dangling colon in it, and names
the place of the first one. From any other text it makes a token of each piece. -/
theorem the_parser_reads_the_pieces_of_the_grammar (s : String) :
    ∃ t, Rule.template.match? s = .ok t ∧
      ((∃ e, Template.parse s = .error e) ↔ ∃ c ∈ t.inner, c.rule = .dangling) ∧
      (∀ e, Template.parse s = .error e ↔
        ∃ c, t.inner.find? (·.rule = .dangling) = some c ∧ e = .invalidDeclaration c.start) ∧
      ∀ u, Template.parse s = .ok u →
        List.Forall₂ (ReadAs s.toList) (t.inner.filter (·.rule ≠ .endOfInput)) u.tokens := by
  obtain ⟨trees, hcuts, hmatch⟩ := exists_cuts s
  generalize hend : (⟨.endOfInput, byteLength s.toList, byteLength s.toList, []⟩ : Tree) = last
    at hmatch
  have hlast : last.rule = .endOfInput := by rw [← hend]
  have hfind : (trees ++ [last]).find? (·.rule = .dangling) = trees.find? (·.rule = .dangling) := by
    simp [List.find?_append, hlast]
  have hmem : (∃ c ∈ trees ++ [last], c.rule = .dangling) ↔
      ∃ c, trees.find? (·.rule = .dangling) = some c := by
    rw [← hfind, ← Option.isSome_iff_exists, List.find?_isSome]
    simp
  have hpieces : (trees ++ [last]).filter (·.rule ≠ .endOfInput) = trees := by
    rw [List.filter_append, hcuts.filter_eq]
    simp [hlast]
  refine ⟨_, hmatch, ?_⟩
  simp only [hmem, hfind, hpieces]
  rcases hcuts.parse_eq with ⟨c, hc, herror⟩ | ⟨hnone, tokens, hok, hall⟩
  · rw [herror, hc]
    refine ⟨by simp, by simp [eq_comm], fun u hu => ?_⟩
    cases hu
  · rw [hok, hnone]
    refine ⟨by simp, by simp, fun u hu => ?_⟩
    cases hu
    exact hall

end PathTemplate.Grammar
