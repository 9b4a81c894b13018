-- Paths that do not collide. Where a literal stands between any two placeholders, and no
-- value holds the character with which the literal behind it begins, a path can be cut back
-- into the texts of its values. So the same path comes from the same texts.
import Mathlib
import PathTemplate.Proofs.Building
import PathTemplate.Proofs.Canonical
import PathTemplate.Proofs.Entries

namespace PathTemplate

/-! ## Literals between placeholders -/

/-- The two tokens are not both placeholders. -/
def Token.Apart : Token → Token → Prop
  | .placeholder _, .placeholder _ => False
  | _, _ => True

instance : DecidableRel Token.Apart
  | .placeholder _, .placeholder _ => .isFalse id
  | .literal _, _ => .isTrue (by simp [Token.Apart])
  | .placeholder _, .literal _ => .isTrue trivial

namespace Params

/-- If a literal stands behind a placeholder, the text for the placeholder does not hold the
first character of the literal. -/
def EndsBefore (p : Params) : Token → Token → Prop
  | .placeholder name, .literal text =>
    ∀ c, text.toList.head? = some c → c ∉ (p.textFor (.placeholder name)).toList
  | _, _ => True

variable {p q : Params} {tokens rest : List Token}

theorem pathFor_cons (p : Params) (token : Token) (rest : List Token) :
    p.pathFor (token :: rest) = p.textFor token ++ p.pathFor rest := by
  simp [pathFor]

/-- A literal in a path shows where the text for the placeholder in front of it ends. -/
theorem cut_at_literal {name text : String} (htext : (Token.literal text).WellFormed)
    (hp : p.EndsBefore (.placeholder name) (.literal text))
    (hq : q.EndsBefore (.placeholder name) (.literal text))
    (h : p.pathFor (.placeholder name :: .literal text :: rest) =
      q.pathFor (.placeholder name :: .literal text :: rest)) :
    p.textFor (.placeholder name) = q.textFor (.placeholder name) ∧
      p.pathFor (.literal text :: rest) = q.pathFor (.literal text :: rest) := by
  obtain ⟨c, cs, hcs⟩ := List.exists_cons_of_ne_nil htext.ne_nil
  have hhead : text.toList.head? = some c := by simp [hcs]
  have hbehind (r : Params) :
      (r.pathFor (.literal text :: rest)).toList = c :: (cs ++ (r.pathFor rest).toList) := by
    simp [pathFor_cons, textFor, hcs]
  have hlists := congrArg String.toList h
  rw [p.pathFor_cons, q.pathFor_cons, String.toList_append, String.toList_append, hbehind,
    hbehind] at hlists
  obtain ⟨hname, hrest⟩ := eq_of_first_separator (hp c hhead) (hq c hhead) hlists
  refine ⟨String.toList_inj.1 hname, String.toList_inj.1 ?_⟩
  rw [hbehind, hbehind, hrest]

/-- The text for the first token can be cut off the path. -/
theorem cut_first {token : Token} (hwell : ∀ t ∈ rest, t.WellFormed)
    (hapart : (token :: rest).IsChain Token.Apart)
    (hp : (token :: rest).IsChain p.EndsBefore) (hq : (token :: rest).IsChain q.EndsBefore)
    (h : p.pathFor (token :: rest) = q.pathFor (token :: rest)) :
    p.textFor token = q.textFor token ∧ p.pathFor rest = q.pathFor rest := by
  cases token with
  | literal text =>
    rw [pathFor_cons, pathFor_cons] at h
    exact ⟨rfl, (String.append_right_inj text).1 h⟩
  | placeholder name =>
    cases rest with
    | nil =>
      -- Nothing stands behind the last placeholder, so its text may hold anything.
      refine ⟨?_, rfl⟩
      simpa [pathFor] using h
    | cons next others =>
      cases next with
      | placeholder other => exact absurd (List.isChain_cons_cons.1 hapart).1 id
      | literal text =>
        apply cut_at_literal (hwell _ List.mem_cons_self) _ _ h
        · exact (List.isChain_cons_cons.1 hp).1
        · exact (List.isChain_cons_cons.1 hq).1

/-- The same path has the same texts in it, token by token. -/
theorem textFor_eq_of_pathFor_eq (hwell : ∀ t ∈ tokens, t.WellFormed)
    (hapart : tokens.IsChain Token.Apart) (hp : tokens.IsChain p.EndsBefore)
    (hq : tokens.IsChain q.EndsBefore) (h : p.pathFor tokens = q.pathFor tokens) :
    ∀ token ∈ tokens, p.textFor token = q.textFor token := by
  induction tokens with
  | nil => simp
  | cons token rest ih =>
    obtain ⟨-, hwell⟩ := List.forall_mem_cons.1 hwell
    obtain ⟨hfirst, hrest⟩ := cut_first hwell hapart hp hq h
    refine List.forall_mem_cons.2 ⟨hfirst, ?_⟩
    exact ih hwell hapart.of_cons hp.of_cons hq.of_cons hrest

end Params

/-! ## Params of a path -/

namespace Template

variable {t : Template} {p q : Params} {path : String}

/-- What a path is built from has the names of the template for its keys. -/
theorem mem_keys_iff_of_build (h : t.build p = .ok path) {key : String} :
    key ∈ p.keys ↔ .placeholder key ∈ t.tokens := by
  obtain ⟨hcovers, hdeclared, -⟩ := build_eq_ok_iff.1 h
  refine ⟨hdeclared key, fun hkey => ?_⟩
  obtain ⟨value, hvalue, -⟩ := hcovers key hkey
  rw [← Params.isSome_get?_iff, hvalue]
  rfl

theorem keys_eq_of_build (hp : t.build p = .ok path) {other : String}
    (hq : t.build q = .ok other) : p.keys = q.keys := by
  apply Params.keys_eq_of_mem_iff
  intro key
  rw [mem_keys_iff_of_build hp, mem_keys_iff_of_build hq]

end Template

/-! ## The law -/

/-- In a template without two placeholders side by side, let no value hold the character with
which the literal behind its placeholder begins. Then the same path is only built from params
that have the same keys and, for each of them, values with the same text. -/
theorem a_path_tells_values_that_avoid_its_separators {s : String} {t : Template}
    (ht : Template.parse s = .ok t) (hapart : t.tokens.IsChain Token.Apart) {p q : Params}
    {path : String} (hp : build s p = .ok path) (hq : build s q = .ok path)
    (hpends : t.tokens.IsChain p.EndsBefore) (hqends : t.tokens.IsChain q.EndsBefore) :
    p.keys = q.keys ∧
      ∀ key ∈ p.keys, ∃ a b, p.get? key = some a ∧ q.get? key = some b ∧ a.text = b.text := by
  rw [build_of_parse_eq_ok ht] at hp hq
  have hwell := (canonical_of_reads (Template.reads_of_parse ht) _ rfl).wellFormed
  obtain ⟨hpcovers, -, hppath⟩ := Template.build_eq_ok_iff.1 hp
  obtain ⟨hqcovers, -, hqpath⟩ := Template.build_eq_ok_iff.1 hq
  have htexts := Params.textFor_eq_of_pathFor_eq hwell hapart hpends hqends (hppath ▸ hqpath)
  refine ⟨Template.keys_eq_of_build hp hq, fun key hkey => ?_⟩
  have hname : .placeholder key ∈ t.tokens := (Template.mem_keys_iff_of_build hp).1 hkey
  obtain ⟨a, ha, -⟩ := hpcovers key hname
  obtain ⟨b, hb, -⟩ := hqcovers key hname
  have htext := htexts _ hname
  simp only [Params.textFor, ha, hb, Option.map_some, Option.getD_some] at htext
  exact ⟨a, b, ha, hb, htext⟩

/-- A name comes twice, with a different literal behind each of its placeholders, and the last
value holds both of the separators. -/
theorem a_path_tells_values_that_avoid_its_separators_of_a_common_name :
    Template.parse "/:id/x:id.:k" = .ok ⟨"/:id/x:id.:k", [.literal "/", .placeholder "id",
      .literal "/x", .placeholder "id", .literal ".", .placeholder "k"]⟩ ∧
    build "/:id/x:id.:k" (.ofList [("id", .uint 7), ("k", .string "/.")]) = .ok "/7/x7./." ∧
    build "/:id/x:id.:k" (.ofList [("k", .string "/."), ("id", .string "7")]) =
      .ok "/7/x7./." ∧
    (Params.ofList [("id", .uint 7), ("k", .string "/.")]).keys =
      (Params.ofList [("k", .string "/."), ("id", .string "7")]).keys ∧
    ∀ key ∈ ["id", "k"], ∃ a b,
      (Params.ofList [("id", .uint 7), ("k", .string "/.")]).get? key = some a ∧
      (Params.ofList [("k", .string "/."), ("id", .string "7")]).get? key = some b ∧
      a.text = b.text := by
  have ht : Template.parse "/:id/x:id.:k" = .ok ⟨"/:id/x:id.:k", [.literal "/",
      .placeholder "id", .literal "/x", .placeholder "id", .literal ".", .placeholder "k"]⟩ := by
    cbv
  have hp : build "/:id/x:id.:k" (.ofList [("id", .uint 7), ("k", .string "/.")]) =
      .ok "/7/x7./." := by
    cbv
  have hq : build "/:id/x:id.:k" (.ofList [("k", .string "/."), ("id", .string "7")]) =
      .ok "/7/x7./." := by
    cbv
  have hptext : (Params.ofList [("id", .uint 7), ("k", .string "/.")]).textFor
      (.placeholder "id") = "7" := by
    cbv
  have hqtext : (Params.ofList [("k", .string "/."), ("id", .string "7")]).textFor
      (.placeholder "id") = "7" := by
    cbv
  have hkeys : (Params.ofList [("id", .uint 7), ("k", .string "/.")]).keys = ["id", "k"] := by
    cbv
  obtain ⟨hsamekeys, hsame⟩ := a_path_tells_values_that_avoid_its_separators ht (by decide) hp hq
    (by simp [Params.EndsBefore, hptext]) (by simp [Params.EndsBefore, hqtext])
  rw [hkeys] at hsame
  exact ⟨ht, hp, hq, hsamekeys, hsame⟩

-- With the separator in a value, the same path comes from other values as well.
example : build "/:a-:b" (.ofList [("a", .string "x-y"), ("b", .string "z")]) =
    build "/:a-:b" (.ofList [("a", .string "x"), ("b", .string "y-z")]) := by
  cbv

end PathTemplate
