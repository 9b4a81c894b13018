-- The laws of a build. The values fit a template when each placeholder has a
-- value and each key has a placeholder. Then the path is what the tokens stand
-- for, and otherwise the first fault is reported.
import Mathlib
import PathTemplate.Build
import PathTemplate.Proofs.Colons

namespace PathTemplate

open Text (Before byteLength)

theorem Token.mem_filterMap_name? {tokens : List Token} {name : String} :
    name ∈ tokens.filterMap Token.name? ↔ .placeholder name ∈ tokens := by
  rw [List.mem_filterMap]
  refine ⟨?_, fun h => ⟨_, h, rfl⟩⟩
  rintro ⟨token, htoken, hname⟩
  cases token with
  | literal text => cases hname
  | placeholder other =>
    cases hname
    exact htoken

/-! ## What fits together -/

namespace Params

/-- The name has a value, and not the absent one. -/
def Supplies (p : Params) (name : String) : Prop :=
  ∃ value, p.get? name = some value ∧ value ≠ .absent

/-- Each placeholder has a value. -/
def Covers (p : Params) (tokens : List Token) : Prop :=
  ∀ name, .placeholder name ∈ tokens → p.Supplies name

/-- Each key has a placeholder. -/
def DeclaredBy (p : Params) (tokens : List Token) : Prop :=
  ∀ key ∈ p.keys, .placeholder key ∈ tokens

/-- The text that a token stands for. -/
def textFor (p : Params) : Token → String
  | .literal text => text
  | .placeholder name => ((p.get? name).map Value.text).getD ""

/-- The text that the tokens stand for, one after the other. -/
def pathFor (p : Params) (tokens : List Token) : String := String.join (tokens.map p.textFor)

/-- The first placeholder without a value has this name. -/
def FirstMissing (p : Params) (tokens : List Token) (name : String) : Prop :=
  ∃ before after, tokens = before ++ .placeholder name :: after ∧
    p.Covers before ∧ ¬ p.Supplies name

/-- The key has no placeholder, and it comes before any other key without one. -/
structure LeastUndeclared (p : Params) (tokens : List Token) (key : String) : Prop where
  mem : key ∈ p.keys
  undeclared : .placeholder key ∉ tokens
  least : ∀ other ∈ p.keys, .placeholder other ∉ tokens → other = key ∨ Before key other

theorem covers_nil (p : Params) : p.Covers [] := by
  simp [Covers]

theorem covers_append {p : Params} {a b : List Token} :
    p.Covers (a ++ b) ↔ p.Covers a ∧ p.Covers b := by
  simp [Covers, or_imp, forall_and]

theorem covers_literal_cons {p : Params} {text : String} {rest : List Token} :
    p.Covers (.literal text :: rest) ↔ p.Covers rest := by
  simp [Covers]

theorem covers_placeholder_cons {p : Params} {name : String} {rest : List Token} :
    p.Covers (.placeholder name :: rest) ↔ p.Supplies name ∧ p.Covers rest := by
  simp [Covers, or_imp, forall_and]

/-- Only which names of the tokens have a value counts. -/
theorem covers_congr {p q : Params} {tokens : List Token}
    (h : ∀ name, .placeholder name ∈ tokens → (p.Supplies name ↔ q.Supplies name)) :
    p.Covers tokens ↔ q.Covers tokens := by
  unfold Covers
  exact forall₂_congr h

theorem firstMissing_congr {p q : Params} {tokens : List Token} {name : String}
    (h : ∀ name, .placeholder name ∈ tokens → (p.Supplies name ↔ q.Supplies name)) :
    p.FirstMissing tokens name ↔ q.FirstMissing tokens name := by
  unfold FirstMissing
  refine exists₂_congr fun before after => and_congr_right ?_
  rintro rfl
  have hbefore : p.Covers before ↔ q.Covers before :=
    covers_congr fun other hother => h other (List.mem_append_left _ hother)
  rw [hbefore, h name (by simp)]

/-- Only which keys have no placeholder counts. -/
theorem leastUndeclared_congr {p q : Params} {tokens : List Token}
    (h : ∀ key, .placeholder key ∉ tokens → (key ∈ p.keys ↔ key ∈ q.keys)) {key : String} :
    p.LeastUndeclared tokens key ↔ q.LeastUndeclared tokens key := by
  constructor
  · rintro ⟨hmem, hkey, hleast⟩
    refine ⟨(h key hkey).1 hmem, hkey, fun other hother hnot => ?_⟩
    exact hleast other ((h other hnot).2 hother) hnot
  · rintro ⟨hmem, hkey, hleast⟩
    refine ⟨(h key hkey).2 hmem, hkey, fun other hother hnot => ?_⟩
    exact hleast other ((h other hnot).1 hother) hnot

theorem declaredBy_congr {p q : Params} {tokens : List Token}
    (h : ∀ key, .placeholder key ∉ tokens → (key ∈ p.keys ↔ key ∈ q.keys)) :
    p.DeclaredBy tokens ↔ q.DeclaredBy tokens := by
  constructor
  · intro hp key hkey
    by_contra hnot
    exact hnot (hp key ((h key hnot).2 hkey))
  · intro hq key hkey
    by_contra hnot
    exact hnot (hq key ((h key hnot).1 hkey))

/-- Either each placeholder has a value, or one is the first that has none. -/
theorem covers_or_firstMissing (p : Params) (tokens : List Token) :
    p.Covers tokens ∨ ∃ name, p.FirstMissing tokens name := by
  induction tokens with
  | nil => exact Or.inl p.covers_nil
  | cons token rest ih =>
    by_cases htoken : p.Covers [token]
    · rcases ih with hrest | ⟨name, before, after, rfl, hbefore, hname⟩
      · exact Or.inl (covers_append.2 ⟨htoken, hrest⟩)
      · exact Or.inr ⟨name, token :: before, after, rfl, covers_append.2 ⟨htoken, hbefore⟩, hname⟩
    · cases token with
      | literal text => exact absurd (covers_literal_cons.2 p.covers_nil) htoken
      | placeholder name =>
        refine Or.inr ⟨name, [], rest, rfl, p.covers_nil, fun h => htoken ?_⟩
        exact covers_placeholder_cons.2 ⟨h, p.covers_nil⟩

theorem FirstMissing.append_left {p : Params} {a : List Token} {name : String}
    (h : p.FirstMissing a name) (b : List Token) : p.FirstMissing (a ++ b) name := by
  obtain ⟨before, after, rfl, hbefore, hname⟩ := h
  exact ⟨before, after ++ b, by simp, hbefore, hname⟩

theorem FirstMissing.append_right {p : Params} {a b : List Token} {name : String}
    (ha : p.Covers a) (h : p.FirstMissing b name) : p.FirstMissing (a ++ b) name := by
  obtain ⟨before, after, rfl, hbefore, hname⟩ := h
  exact ⟨a ++ before, after, by simp, covers_append.2 ⟨ha, hbefore⟩, hname⟩

theorem pathFor_append (p : Params) (a b : List Token) :
    p.pathFor (a ++ b) = p.pathFor a ++ p.pathFor b := by
  rw [pathFor, List.map_append, String.join_append, pathFor, pathFor]

theorem LeastUndeclared.unique {p : Params} {tokens : List Token} {a b : String}
    (ha : p.LeastUndeclared tokens a) (hb : p.LeastUndeclared tokens b) : a = b := by
  rcases ha.least b hb.mem hb.undeclared with h | hab
  · exact h.symm
  · rcases hb.least a ha.mem ha.undeclared with h | hba
    · exact h
    · exact absurd (Text.before_trans hab hba) (Text.not_before_self a)

/-! ## Looking a value up -/

theorem resolve_eq_ok_iff {p : Params} {name : String} {value : Value} :
    p.resolve name = .ok value ↔ p.get? name = some value ∧ value ≠ .absent := by
  unfold resolve
  cases p.get? name with
  | none => simp
  | some stored =>
    by_cases h : stored = .absent
    · simp only [Value.isAbsent_iff, h, if_true, Option.some.injEq]
      refine ⟨?_, ?_⟩
      · intro heq
        cases heq
      · rintro ⟨rfl, hne⟩
        exact absurd rfl hne
    · simp only [Value.isAbsent_iff, h, if_false, Except.ok.injEq, Option.some.injEq]
      refine ⟨?_, ?_⟩
      · rintro rfl
        exact ⟨rfl, h⟩
      · rintro ⟨rfl, -⟩
        rfl

theorem resolve_eq_error {p : Params} {name : String} (h : ¬ p.Supplies name) :
    p.resolve name = .error (.missingParam name) := by
  unfold resolve
  cases hget : p.get? name with
  | none => rfl
  | some stored =>
    have habsent : stored = .absent := Classical.byContradiction fun hne => h ⟨stored, hget, hne⟩
    simp [Value.isAbsent_iff, habsent]

/-! ## Keys without a placeholder -/

theorem unusedKey?_eq_none_iff {p : Params} {used : List String} :
    p.unusedKey? used = none ↔ ∀ key ∈ p.keys, key ∈ used := by
  simp [unusedKey?]

/-- The keys are searched in their order, so the first one that is found is the least. -/
theorem least_of_unusedKey? {p : Params} {used : List String} {key : String}
    (h : p.unusedKey? used = some key) : key ∈ p.keys ∧ key ∉ used ∧
      ∀ other ∈ p.keys, other ∉ used → other = key ∨ Before key other := by
  obtain ⟨hkey, before, after, hkeys, hbefore⟩ := List.find?_eq_some_iff_append.1 h
  have horder := p.keys_inOrder
  rw [hkeys] at horder ⊢
  refine ⟨by simp, by simpa using hkey, fun other hother hnot => ?_⟩
  rcases List.mem_append.1 hother with hother | hother
  · have hused := hbefore other hother
    simp only [Bool.not_not, List.contains_iff_mem] at hused
    exact absurd hused hnot
  · rcases List.mem_cons.1 hother with heq | hother
    · exact Or.inl heq
    · exact Or.inr ((List.pairwise_cons.1 (List.pairwise_append.1 horder).2.1).1 other hother)

end Params

/-! ## The loop over the tokens -/

namespace Draft

theorem add_literal (p : Params) (d : Draft) (text : String) :
    d.add p (.literal text) = .ok ⟨d.path ++ text, d.used⟩ := rfl

theorem add_placeholder {p : Params} {name : String} (h : p.Supplies name) (d : Draft) :
    d.add p (.placeholder name) =
      .ok ⟨d.path ++ p.textFor (.placeholder name), name :: d.used⟩ := by
  obtain ⟨value, hget, hne⟩ := h
  have hresolve := Params.resolve_eq_ok_iff.2 ⟨hget, hne⟩
  simp [add, hresolve, Params.textFor, hget]

/-- A turn that finds its value adds the text of its token, and no key but its own is used. -/
theorem add_eq_ok {p : Params} {token : Token} (h : p.Covers [token]) (d : Draft) :
    ∃ next, d.add p token = .ok next ∧ next.path = d.path ++ p.textFor token ∧
      ∀ key, key ∈ next.used ↔ .placeholder key = token ∨ key ∈ d.used := by
  cases token with
  | literal text => exact ⟨_, d.add_literal p text, rfl, by simp⟩
  | placeholder name =>
    have hname := (Params.covers_placeholder_cons.1 h).1
    exact ⟨_, add_placeholder hname d, rfl, by simp⟩

/-- The walk over tokens that all find their values: the path grows by their texts, and
the used keys by their names. -/
theorem addAll_eq_ok {p : Params} {tokens : List Token} (h : p.Covers tokens) (d : Draft) :
    ∃ last, d.addAll p tokens = .ok last ∧ last.path = d.path ++ p.pathFor tokens ∧
      ∀ key, key ∈ last.used ↔ .placeholder key ∈ tokens ∨ key ∈ d.used := by
  induction tokens generalizing d with
  | nil => exact ⟨d, rfl, by simp [Params.pathFor], by simp⟩
  | cons token rest ih =>
    obtain ⟨htoken, hrest⟩ := Params.covers_append.1 (show p.Covers ([token] ++ rest) from h)
    obtain ⟨next, hnext, hpath, hused⟩ := add_eq_ok htoken d
    obtain ⟨last, hlast, hpath', hused'⟩ := ih hrest next
    refine ⟨last, by simp only [addAll, hnext, hlast], ?_, fun key => ?_⟩
    · rw [hpath', hpath, String.append_assoc]
      simp [Params.pathFor]
    · rw [hused', hused, List.mem_cons]
      exact or_left_comm.trans or_assoc.symm

/-- The walk stops at the first placeholder without a value. -/
theorem addAll_eq_error {p : Params} {tokens : List Token} {name : String}
    (h : p.FirstMissing tokens name) (d : Draft) :
    d.addAll p tokens = .error (.missingParam name) := by
  obtain ⟨before, after, rfl, hbefore, hname⟩ := h
  induction before generalizing d with
  | nil => simp [addAll, add, Params.resolve_eq_error hname]
  | cons token before ih =>
    obtain ⟨htoken, hbefore⟩ := Params.covers_append.1 (show p.Covers ([token] ++ before) from hbefore)
    obtain ⟨next, hnext, -⟩ := add_eq_ok htoken d
    simp only [List.cons_append, addAll, hnext]
    exact ih next hbefore

end Draft

/-! ## How a build ends -/

namespace Template

theorem mem_names {t : Template} {name : String} :
    name ∈ t.names ↔ .placeholder name ∈ t.tokens := by
  unfold names
  rw [List.mem_eraseDups, Token.mem_filterMap_name?]

theorem build_of_firstMissing {t : Template} {p : Params} {name : String}
    (h : p.FirstMissing t.tokens name) : t.build p = .error (.missingParam name) := by
  unfold build
  rw [Draft.addAll_eq_error h]

/-- With a value for each placeholder, the keys decide. What the walk has used then are
the names of all placeholders. -/
theorem build_of_covers {t : Template} {p : Params} (h : p.Covers t.tokens) :
    (p.DeclaredBy t.tokens ∧ t.build p = .ok (p.pathFor t.tokens)) ∨
      ∃ key, p.LeastUndeclared t.tokens key ∧ t.build p = .error (.unknownParam key) := by
  obtain ⟨last, hlast, hpath, hused⟩ := Draft.addAll_eq_ok h .empty
  have hnames (key : String) : key ∈ last.used ↔ .placeholder key ∈ t.tokens := by
    simp [hused, Draft.empty]
  unfold build
  rw [hlast]
  cases hunused : p.unusedKey? last.used with
  | none =>
    left
    refine ⟨fun key hkey => ?_, by simp [hunused, hpath, Draft.empty]⟩
    exact (hnames key).1 (Params.unusedKey?_eq_none_iff.1 hunused key hkey)
  | some key =>
    right
    have hleast := Params.least_of_unusedKey? hunused
    simp only [hnames] at hleast
    exact ⟨key, ⟨hleast.1, hleast.2.1, hleast.2.2⟩, by simp only [hunused]⟩

/-- What the build of a template comes to. -/
inductive Builds (t : Template) (p : Params) : Except Error String → Prop
  | missing {name} : p.FirstMissing t.tokens name → Builds t p (.error (.missingParam name))
  | unknown {key} : p.Covers t.tokens → p.LeastUndeclared t.tokens key →
      Builds t p (.error (.unknownParam key))
  | path : p.Covers t.tokens → p.DeclaredBy t.tokens → Builds t p (.ok (p.pathFor t.tokens))

theorem builds_build (t : Template) (p : Params) : Builds t p (t.build p) := by
  rcases p.covers_or_firstMissing t.tokens with hc | ⟨name, hm⟩
  · rcases build_of_covers hc with ⟨hd, hok⟩ | ⟨key, hkey, herr⟩
    · rw [hok]
      exact .path hc hd
    · rw [herr]
      exact .unknown hc hkey
  · rw [build_of_firstMissing hm]
    exact .missing hm

/-- A build comes to one result, and the three kinds of result exclude each other. -/
theorem builds_iff {t : Template} {p : Params} {result : Except Error String} :
    Builds t p result ↔ t.build p = result := by
  refine ⟨fun h => ?_, ?_⟩
  · cases h with
    | missing hm => exact build_of_firstMissing hm
    | unknown hc hkey =>
      rcases build_of_covers hc with ⟨hd, -⟩ | ⟨other, hother, herr⟩
      · exact absurd (hd _ hkey.mem) hkey.undeclared
      · rw [herr, hother.unique hkey]
    | path hc hd =>
      rcases build_of_covers hc with ⟨-, hok⟩ | ⟨key, hkey, -⟩
      · exact hok
      · exact absurd (hd key hkey.mem) hkey.undeclared
  · rintro rfl
    exact builds_build t p

theorem build_eq_ok_iff {t : Template} {p : Params} {path : String} :
    t.build p = .ok path ↔
      p.Covers t.tokens ∧ p.DeclaredBy t.tokens ∧ path = p.pathFor t.tokens := by
  rw [← builds_iff]
  refine ⟨?_, ?_⟩
  · rintro ⟨⟩
    exact ⟨‹_›, ‹_›, rfl⟩
  · rintro ⟨hc, hd, rfl⟩
    exact .path hc hd

theorem build_eq_error_iff {t : Template} {p : Params} {e : Error} :
    t.build p = .error e ↔
      (∃ name, p.FirstMissing t.tokens name ∧ e = .missingParam name) ∨
        (p.Covers t.tokens ∧ ∃ key, p.LeastUndeclared t.tokens key ∧ e = .unknownParam key) := by
  rw [← builds_iff]
  constructor
  · intro h
    cases h with
    | missing hm => exact Or.inl ⟨_, hm, rfl⟩
    | unknown hc hkey => exact Or.inr ⟨hc, _, hkey, rfl⟩
  · rintro (⟨name, hm, rfl⟩ | ⟨hc, key, hkey, rfl⟩)
    · exact .missing hm
    · exact .unknown hc hkey

theorem build_eq_missing_iff {t : Template} {p : Params} {name : String} :
    t.build p = .error (.missingParam name) ↔ p.FirstMissing t.tokens name := by
  rw [← builds_iff]
  refine ⟨?_, .missing⟩
  rintro ⟨⟩
  assumption

theorem build_eq_unknown_iff {t : Template} {p : Params} {key : String} :
    t.build p = .error (.unknownParam key) ↔
      p.Covers t.tokens ∧ p.LeastUndeclared t.tokens key := by
  rw [← builds_iff]
  refine ⟨?_, fun h => .unknown h.1 h.2⟩
  rintro ⟨⟩
  exact ⟨‹_›, ‹_›⟩

end Template

/-! ## The laws -/

theorem build_of_parse_eq_ok {s : String} {t : Template} (h : Template.parse s = .ok t)
    (p : Params) : build s p = t.build p := by
  unfold build
  rw [h]

theorem build_of_parse_eq_error {s : String} {e : Error} (h : Template.parse s = .error e)
    (p : Params) : build s p = .error e := by
  unfold build
  rw [h]

/-- A build gives a path exactly when the text is a template, each placeholder has a value
and each key has a placeholder. The path is then the text of the tokens, with each literal
as it stands and each value in all the places of its name. -/
theorem a_build_succeeds_when_values_and_placeholders_match (s : String) (p : Params)
    (path : String) :
    build s p = .ok path ↔ ∃ t, Template.parse s = .ok t ∧
      p.Covers t.tokens ∧ p.DeclaredBy t.tokens ∧ path = p.pathFor t.tokens := by
  cases hparse : Template.parse s with
  | ok t =>
    rw [build_of_parse_eq_ok hparse, ← Template.builds_iff]
    refine ⟨fun h => ?_, ?_⟩
    · cases h with
      | path hc hd => exact ⟨t, rfl, hc, hd, rfl⟩
    · rintro ⟨_, ht, hc, hd, rfl⟩
      cases ht
      exact .path hc hd
  | error e =>
    rw [build_of_parse_eq_error hparse]
    simp

/-- A build that gives no path reports one fault: the first bare colon of the text, or in
a text without one the first placeholder that has no value, or, where all have one, the
least key that has no placeholder. -/
theorem a_failed_build_reports_its_first_fault (s : String) (p : Params) (e : Error) :
    build s p = .error e ↔
      (∃ i, FirstBareAt s.toList i ∧ e = .invalidDeclaration (byteLength (s.toList.take i))) ∨
      ((∀ i, ¬ BareAt s.toList i) ∧ ∃ t, Template.parse s = .ok t ∧
        ((∃ name, p.FirstMissing t.tokens name ∧ e = .missingParam name) ∨
          (p.Covers t.tokens ∧
            ∃ key, p.LeastUndeclared t.tokens key ∧ e = .unknownParam key))) := by
  cases hparse : Template.parse s with
  | ok t =>
    have hnone := Template.not_bareAt_of_parse hparse
    rw [build_of_parse_eq_ok hparse, ← Template.builds_iff]
    refine ⟨fun h => Or.inr ⟨hnone, t, rfl, ?_⟩, ?_⟩
    · cases h with
      | missing hm => exact Or.inl ⟨_, hm, rfl⟩
      | unknown hc hkey => exact Or.inr ⟨hc, _, hkey, rfl⟩
    · rintro (⟨i, hi, -⟩ | ⟨-, _, ht, h⟩)
      · exact absurd hi.bare (hnone i)
      · cases ht
        rcases h with ⟨name, hm, rfl⟩ | ⟨hc, key, hkey, rfl⟩
        · exact .missing hm
        · exact .unknown hc hkey
  | error e' =>
    obtain ⟨i, hi, rfl⟩ := Template.parse_eq_error_iff.1 hparse
    rw [build_of_parse_eq_error hparse]
    refine ⟨?_, ?_⟩
    · intro h
      cases h
      exact Or.inl ⟨i, hi, rfl⟩
    · rintro (⟨j, hj, rfl⟩ | ⟨hnone, -⟩)
      · rw [firstBareAt_unique hi hj]
      · exact absurd hi.bare (hnone i)

-- Two placeholders have no value, and two keys no placeholder.
example : build "/:b/:a:c" (.ofList [("z", .bool true), ("b", .uint 1), ("c", .absent),
    ("y", .string ":b")]) = .error (.missingParam "a") := by
  cbv

end PathTemplate
