-- Reading a template and writing its tokens again. The tokens stand for all of the text, piece
-- by piece, so the text can be had back from them. Each token keeps to its class of
-- characters, and none of them could go on into the one behind it. The tokens of every
-- template are like that, and every list of that kind comes back when its text is read.
import Mathlib
import PathTemplate.Proofs.Reading

namespace PathTemplate

open Text (byteLength)

/-! ## The text of the tokens -/

theorem Token.written_placeholder_ofList (name : List Char) :
    written (.placeholder (String.ofList name)) = ':' :: name := by
  rw [written, String.toList_ofList]

theorem Token.written_literal_ofList (text : List Char) :
    written (.literal (String.ofList text)) = text := by
  rw [written, String.toList_ofList]

namespace Template

/-- Each token stands for the piece that it was read from, and the next one for what comes
behind that piece. -/
theorem flatMap_written_of_reads {offset : Nat} {cs : List Char}
    {result : Except Error (List Token)} (h : Reads offset cs result) :
    ∀ tokens, result = .ok tokens → tokens.flatMap Token.written = cs := by
  induction h with
  | done =>
    intro tokens h
    cases h
    rfl
  | bare _ =>
    intro tokens h
    cases h
  | placeholder _ _ _ ih =>
    intro tokens h
    obtain ⟨others, hothers, rfl⟩ := map_eq_ok_iff.1 h
    rw [List.flatMap_cons, Token.written_placeholder_ofList, ih others hothers]
  | literal _ _ _ ih =>
    intro tokens h
    obtain ⟨others, hothers, rfl⟩ := map_eq_ok_iff.1 h
    rw [List.flatMap_cons, Token.written_literal_ofList, ih others hothers]

theorem render_of_parse {s : String} {t : Template} (h : parse s = .ok t) :
    Token.render t.tokens = s := by
  rw [Token.render, flatMap_written_of_reads (reads_of_parse h) t.tokens rfl, String.ofList_toList]

end Template

/-! ## Tokens side by side -/

namespace Token

/-- A literal is a run of characters that are no colons, and a placeholder has a run of
name characters for its name. -/
def WellFormed : Token → Prop
  | .literal text => IsRun isLiteralChar text.toList
  | .placeholder name => IsRun isNameChar name.toList

/-- Whether the second token may stand right behind the first. A literal goes on up to a
colon, and a name up to a character that no name holds. -/
def MayFollow : Token → Token → Prop
  | _, .placeholder _ => True
  | .literal _, .literal _ => False
  | .placeholder _, .literal text => Stops isNameChar text.toList

instance : DecidablePred WellFormed
  | .literal text => inferInstanceAs (Decidable (IsRun isLiteralChar text.toList))
  | .placeholder name => inferInstanceAs (Decidable (IsRun isNameChar name.toList))

instance : DecidableRel MayFollow
  | _, .placeholder _ => .isTrue (by simp [MayFollow])
  | .literal _, .literal _ => .isFalse id
  | .placeholder _, .literal text => inferInstanceAs (Decidable (Stops isNameChar text.toList))

/-- The class of the characters that a token goes on with. -/
def inClass : Token → Char → Bool
  | .literal _ => isLiteralChar
  | .placeholder _ => isNameChar

theorem inClass_colon (t : Token) : t.inClass ':' = false := by
  cases t with
  | literal => exact isLiteralChar_colon
  | placeholder => exact isNameChar_colon

/-- Where a token ends in front of another, only the start of that other one counts. -/
theorem stops_written_append_iff {a b : Token} (hb : b.WellFormed) (rest : List Char) :
    Stops a.inClass (b.written ++ rest) ↔ MayFollow a b := by
  cases b with
  | placeholder name => simp [MayFollow, written, Stops, inClass_colon]
  | literal text =>
    rw [written, Stops, List.head?_append_of_ne_nil _ hb.ne_nil]
    cases a with
    | placeholder name => rfl
    | literal before =>
      refine ⟨fun hstops => ?_, False.elim⟩
      have hin := hb.all _ (List.head_mem hb.ne_nil)
      rw [show isLiteralChar _ = false from hstops _ (List.head?_eq_some_head hb.ne_nil)] at hin
      cases hin

end Token

/-! ## Canonical lists -/

open Token (WellFormed MayFollow written)

/-- No token of the list could be longer than it is, and none is empty. -/
structure Canonical (tokens : List Token) : Prop where
  wellFormed : ∀ t ∈ tokens, t.WellFormed
  seams : tokens.IsChain MayFollow

instance (tokens : List Token) : Decidable (Canonical tokens) :=
  decidable_of_iff ((∀ t ∈ tokens, t.WellFormed) ∧ tokens.IsChain MayFollow)
    ⟨fun h => ⟨h.1, h.2⟩, fun h => ⟨h.1, h.2⟩⟩

theorem canonical_nil : Canonical [] := ⟨by simp, List.isChain_nil⟩

/-- In the text of a canonical list each token stops where the rest of the text begins. -/
theorem canonical_cons_iff {a : Token} {rest : List Token} :
    Canonical (a :: rest) ↔
      a.WellFormed ∧ Stops a.inClass (rest.flatMap written) ∧ Canonical rest := by
  have hseam (hrest : ∀ t ∈ rest, t.WellFormed) :
      Stops a.inClass (rest.flatMap written) ↔ ∀ b ∈ rest.head?, MayFollow a b := by
    cases rest with
    | nil => simp [Stops]
    | cons b others =>
      rw [List.flatMap_cons, Token.stops_written_append_iff (hrest b List.mem_cons_self)]
      simp
  constructor
  · rintro ⟨hall, hchain⟩
    obtain ⟨ha, hrest⟩ := List.forall_mem_cons.1 hall
    obtain ⟨hhead, htail⟩ := List.isChain_cons.1 hchain
    exact ⟨ha, (hseam hrest).2 hhead, hrest, htail⟩
  · rintro ⟨ha, hstops, hrest⟩
    refine ⟨List.forall_mem_cons.2 ⟨ha, hrest.wellFormed⟩, List.isChain_cons.2 ⟨?_, hrest.seams⟩⟩
    exact (hseam hrest.wellFormed).1 hstops

/-! ## Reading -/

/-- What is read first stops where the text goes on, and the tokens behind it stand for
that text. -/
theorem canonical_of_reads {offset : Nat} {cs : List Char} {result : Except Error (List Token)}
    (h : Reads offset cs result) : ∀ tokens, result = .ok tokens → Canonical tokens := by
  induction h with
  | done =>
    intro tokens h
    cases h
    exact canonical_nil
  | bare _ =>
    intro tokens h
    cases h
  | placeholder hname hrest hreads ih =>
    intro tokens h
    obtain ⟨others, hothers, rfl⟩ := map_eq_ok_iff.1 h
    rw [canonical_cons_iff, Template.flatMap_written_of_reads hreads others hothers]
    exact ⟨by rwa [WellFormed, String.toList_ofList], hrest, ih others hothers⟩
  | literal htext hrest hreads ih =>
    intro tokens h
    obtain ⟨others, hothers, rfl⟩ := map_eq_ok_iff.1 h
    rw [canonical_cons_iff, Template.flatMap_written_of_reads hreads others hothers]
    exact ⟨by rwa [WellFormed, String.toList_ofList], hrest, ih others hothers⟩

/-- The text of a canonical list is read piece by piece, each token from its own piece. -/
theorem reads_of_canonical {tokens : List Token} (h : Canonical tokens) (offset : Nat) :
    Reads offset (tokens.flatMap written) (.ok tokens) := by
  induction tokens generalizing offset with
  | nil => exact .done
  | cons token rest ih =>
    obtain ⟨htoken, hstops, hrest⟩ := canonical_cons_iff.1 h
    cases token with
    | literal text =>
      have hreads := Reads.literal htoken hstops (ih hrest (offset + byteLength text.toList))
      rwa [String.ofList_toList] at hreads
    | placeholder name =>
      have hreads := Reads.placeholder htoken hstops
        (ih hrest (offset + byteLength (':' :: name.toList)))
      rwa [String.ofList_toList] at hreads

/-! ## The laws -/

/-- The tokens of a template, written again in their order, are the text that was read. So
no two texts have the same tokens. -/
theorem tokens_keep_the_text {s : String} {t : Template} (h : Template.parse s = .ok t) :
    Token.render t.tokens = s ∧ t.source = s ∧
      ∀ s' t', Template.parse s' = .ok t' → t'.tokens = t.tokens → s' = s := by
  have hs := Template.render_of_parse h
  refine ⟨hs, (Template.parse_eq_ok_iff.1 h).2, ?_⟩
  intro s' t' h' htokens
  rw [← Template.render_of_parse h', htokens, hs]

/-- The text holds a NUL, a line feed and a character of two bytes. -/
theorem tokens_keep_the_text_of_control_characters :
    Template.parse "/é\x00:id:n\n" = .ok ⟨"/é\x00:id:n\n",
        [.literal "/é\x00", .placeholder "id", .placeholder "n", .literal "\n"]⟩ ∧
      Token.render [.literal "/é\x00", .placeholder "id", .placeholder "n", .literal "\n"] =
        "/é\x00:id:n\n" := by
  have h : Template.parse "/é\x00:id:n\n" = .ok ⟨"/é\x00:id:n\n",
      [.literal "/é\x00", .placeholder "id", .placeholder "n", .literal "\n"]⟩ := by
    cbv
  exact ⟨h, (tokens_keep_the_text h).1⟩

/-- The text of a canonical list of tokens is read as just these tokens. -/
theorem canonical_tokens_are_read_back {tokens : List Token} (h : Canonical tokens) :
    Template.parse (Token.render tokens) = .ok ⟨Token.render tokens, tokens⟩ := by
  rw [Template.parse_eq_ok_iff]
  refine ⟨?_, rfl⟩
  rw [Token.toList_render]
  exact reads_iff.1 (reads_of_canonical h 0)

/-- Two placeholders stand side by side, and a literal begins where a name ends. -/
theorem canonical_tokens_are_read_back_at_every_seam :
    Canonical [.literal "é/", .placeholder "a_1", .placeholder "b", .literal "-c"] ∧
      Template.parse "é/:a_1:b-c" = .ok ⟨"é/:a_1:b-c",
        [.literal "é/", .placeholder "a_1", .placeholder "b", .literal "-c"]⟩ := by
  have h : Canonical [.literal "é/", .placeholder "a_1", .placeholder "b", .literal "-c"] := by
    decide
  have htext : Token.render [.literal "é/", .placeholder "a_1", .placeholder "b", .literal "-c"] =
      "é/:a_1:b-c" := by
    cbv
  refine ⟨h, ?_⟩
  rw [← htext]
  exact canonical_tokens_are_read_back h

/-- The tokens of a template are canonical. -/
theorem a_template_has_canonical_tokens {s : String} {t : Template}
    (h : Template.parse s = .ok t) : Canonical t.tokens :=
  canonical_of_reads (Template.reads_of_parse h) t.tokens rfl

/-- A literal stands between a name and a colon, and one is all that the text has left. -/
theorem a_template_has_canonical_tokens_at_every_seam :
    Template.parse ":a.b:c:d é" = .ok ⟨":a.b:c:d é",
        [.placeholder "a", .literal ".b", .placeholder "c", .placeholder "d", .literal " é"]⟩ ∧
      Canonical
        [.placeholder "a", .literal ".b", .placeholder "c", .placeholder "d", .literal " é"] := by
  have h : Template.parse ":a.b:c:d é" = .ok ⟨":a.b:c:d é",
      [.placeholder "a", .literal ".b", .placeholder "c", .placeholder "d", .literal " é"]⟩ := by
    cbv
  exact ⟨h, a_template_has_canonical_tokens h⟩

end PathTemplate
