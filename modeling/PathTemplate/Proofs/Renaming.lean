-- A template whose placeholders get placeholders for values. The path is a template
-- again, with other names and with all else as it was: where a name ends, a literal
-- goes on with a character that no name holds, so no new name takes any of it.
import Mathlib
import PathTemplate.Proofs.Building
import PathTemplate.Proofs.Canonical
import PathTemplate.Proofs.Entries

namespace PathTemplate

open Token (WellFormed MayFollow written)

/-! ## Other names -/

namespace Token

/-- The token with another name, if it has one. -/
def rename (change : String → String) : Token → Token
  | .literal text => .literal text
  | .placeholder name => .placeholder (change name)

/-- Only literals can be in the way of each other, or of a name, and they stay. -/
theorem mayFollow_rename (change : String → String) {a b : Token} :
    MayFollow (a.rename change) (b.rename change) ↔ MayFollow a b := by
  cases a <;> cases b <;> rfl

end Token

/-- Names of name characters can take the place of other names. -/
theorem canonical_map_rename {tokens : List Token} (h : Canonical tokens)
    {change : String → String}
    (hchange : ∀ name, .placeholder name ∈ tokens → IsRun isNameChar (change name).toList) :
    Canonical (tokens.map (Token.rename change)) := by
  refine ⟨?_, ?_⟩
  · intro token htoken
    obtain ⟨old, hold, rfl⟩ := List.mem_map.1 htoken
    cases old with
    | literal text => exact h.wellFormed _ hold
    | placeholder name => exact hchange name hold
  · rw [List.isChain_map]
    refine h.seams.imp fun a b hseam => ?_
    exact (Token.mayFollow_rename change).2 hseam

/-! ## Placeholders for values -/

namespace Template

/-- Each name of the template with a placeholder of its new name for a value. -/
def aliases (t : Template) (change : String → String) : Params :=
  .ofList (t.names.map fun name => (name, .string (":" ++ change name)))

variable {t : Template} {change : String → String}

theorem get?_aliases {name : String} (h : name ∈ t.names) :
    (t.aliases change).get? name = some (.string (":" ++ change name)) := by
  rw [aliases, Params.get?_ofList, ← List.map_reverse]
  exact List.lookup_graph _ (List.mem_reverse.2 h)

theorem mem_keys_aliases {key : String} : key ∈ (t.aliases change).keys ↔ key ∈ t.names := by
  rw [aliases, Params.mem_keys_ofList, List.map_map]
  simp [Function.comp_def]

theorem covers_aliases : (t.aliases change).Covers t.tokens := by
  intro name hname
  exact ⟨_, get?_aliases (mem_names.2 hname), Value.noConfusion⟩

theorem declaredBy_aliases : (t.aliases change).DeclaredBy t.tokens := by
  intro key hkey
  exact mem_names.1 (mem_keys_aliases.1 hkey)

/-- A token stands for itself, but for its name. -/
theorem textFor_aliases {token : Token} (h : token ∈ t.tokens) :
    ((t.aliases change).textFor token).toList = (token.rename change).written := by
  cases token with
  | literal text => rfl
  | placeholder name =>
    rw [Params.textFor, get?_aliases (mem_names.2 h)]
    simp [Value.text, Token.rename, written]

theorem pathFor_aliases :
    (t.aliases change).pathFor t.tokens = Token.render (t.tokens.map (Token.rename change)) := by
  rw [← String.toList_inj, Token.toList_render, Params.pathFor, String.toList_join,
    List.flatMap_map, List.flatMap_map]
  exact List.flatMap_congr fun token htoken => textFor_aliases htoken

theorem build_aliases :
    t.build (t.aliases change) = .ok (Token.render (t.tokens.map (Token.rename change))) := by
  rw [build_eq_ok_iff]
  exact ⟨covers_aliases, declaredBy_aliases, pathFor_aliases.symm⟩

end Template

/-! ## The law -/

/-- A template is built with a placeholder for the value of each of its names. There is a
path, and that path is a template with the same literals and with the new names in the
places of the old ones. Where the names stay as they are, the path is the text of the
template. -/
theorem placeholders_for_values_rename_a_template {s : String} {t : Template}
    (h : Template.parse s = .ok t) {change : String → String}
    (hchange : ∀ name ∈ t.names, IsRun isNameChar (change name).toList) :
    (∃ path, build s (t.aliases change) = .ok path ∧
      Template.parse path = .ok ⟨path, t.tokens.map (Token.rename change)⟩) ∧
    build s (t.aliases id) = .ok s := by
  rw [build_of_parse_eq_ok h, build_of_parse_eq_ok h]
  refine ⟨⟨_, Template.build_aliases, ?_⟩, ?_⟩
  · have hcanonical := canonical_of_reads (Template.reads_of_parse h) t.tokens rfl
    have hrenamed : Canonical (t.tokens.map (Token.rename change)) := by
      refine canonical_map_rename hcanonical fun name hname => ?_
      exact hchange name (Template.mem_names.2 hname)
    rw [Template.parse_eq_ok_iff, Token.toList_render]
    exact ⟨reads_iff.1 (reads_of_canonical hrenamed 0), rfl⟩
  · have hsame : t.tokens.map (Token.rename id) = t.tokens := by
      refine List.map_id'' (fun token => ?_) t.tokens
      cases token <;> rfl
    rw [Template.build_aliases, hsame, Template.render_of_parse h]

/-- Two names become one, and a name comes twice. -/
theorem placeholders_for_values_rename_a_template_with_common_names :
    Template.parse "é:a.b/:b:a-c" = .ok ⟨"é:a.b/:b:a-c", [.literal "é", .placeholder "a",
      .literal ".b/", .placeholder "b", .placeholder "a", .literal "-c"]⟩ ∧
    IsRun isNameChar "x_1".toList ∧
    (∃ path, build "é:a.b/:b:a-c" (.ofList [("a", .string ":x_1"), ("b", .string ":x_1")]) =
        .ok path ∧
      Template.parse path = .ok ⟨path, [.literal "é", .placeholder "x_1", .literal ".b/",
        .placeholder "x_1", .placeholder "x_1", .literal "-c"]⟩) ∧
    build "é:a.b/:b:a-c" (.ofList [("a", .string ":a"), ("b", .string ":b")]) =
      .ok "é:a.b/:b:a-c" := by
  have h : Template.parse "é:a.b/:b:a-c" = .ok ⟨"é:a.b/:b:a-c", [.literal "é", .placeholder "a",
      .literal ".b/", .placeholder "b", .placeholder "a", .literal "-c"]⟩ := by
    cbv
  have hrun : IsRun isNameChar "x_1".toList := by decide
  exact ⟨h, hrun, placeholders_for_values_rename_a_template h fun _ _ => hrun⟩

end PathTemplate
