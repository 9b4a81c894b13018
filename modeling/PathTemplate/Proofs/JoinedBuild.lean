-- The path of two templates, one behind the other, is the path of the first and
-- then that of the second, where no name goes on from one into the other. Each
-- of them needs only the values of its own names.
import Mathlib
import PathTemplate.Proofs.Building
import PathTemplate.Proofs.Joining

namespace PathTemplate

open Token (join joinOne leftover)

/-! ## The values of some names -/

namespace Params

/-- What is given to these names, and nothing else. -/
def restrict (p : Params) (names : List String) : Params :=
  ⟨p.entries.filter fun e => names.contains e.1, p.inKeyOrder.filter _⟩

theorem keys_restrict (p : Params) (names : List String) :
    (p.restrict names).keys = p.keys.filter fun key => names.contains key := by
  rw [keys, keys, List.filter_map]
  rfl

/-- Entries that are left out do not hide those that stay. -/
theorem lookup_filter {keep : String → Bool} {name : String} (h : keep name = true)
    (entries : List (String × Value)) :
    (entries.filter fun e => keep e.1).lookup name = entries.lookup name := by
  induction entries with
  | nil => rfl
  | cons entry rest ih =>
    obtain ⟨key, value⟩ := entry
    by_cases hkey : keep key = true
    · rw [List.filter_cons, if_pos hkey, List.lookup_cons, List.lookup_cons, ih]
    · have hne : name ≠ key := by
        rintro rfl
        exact hkey h
      rw [List.filter_cons, if_neg hkey, ih, List.lookup_cons, beq_false_of_ne hne]

theorem get?_restrict {names : List String} {name : String} (h : name ∈ names) (p : Params) :
    (p.restrict names).get? name = p.get? name :=
  lookup_filter (List.contains_iff_mem.2 h) p.entries

/-- Each placeholder gets the same value from both, or none from either. -/
def AgreeOn (p q : Params) (tokens : List Token) : Prop :=
  ∀ name, .placeholder name ∈ tokens → p.get? name = q.get? name

namespace AgreeOn

variable {p q : Params} {tokens : List Token}

theorem symm (h : p.AgreeOn q tokens) : q.AgreeOn p tokens := by
  intro name hname
  exact (h name hname).symm

theorem supplies_iff (h : p.AgreeOn q tokens) {name : String}
    (hname : .placeholder name ∈ tokens) : p.Supplies name ↔ q.Supplies name := by
  unfold Supplies
  rw [h name hname]

theorem covers (h : p.AgreeOn q tokens) (hp : p.Covers tokens) : q.Covers tokens :=
  (covers_congr fun _ => h.supplies_iff).1 hp

theorem firstMissing (h : p.AgreeOn q tokens) {name : String}
    (hp : p.FirstMissing tokens name) : q.FirstMissing tokens name :=
  (firstMissing_congr fun _ => h.supplies_iff).1 hp

theorem pathFor_eq (h : p.AgreeOn q tokens) : p.pathFor tokens = q.pathFor tokens := by
  unfold pathFor
  congr 1
  apply List.map_congr_left
  intro token htoken
  cases token with
  | literal text => rfl
  | placeholder name => simp only [textFor, h name htoken]

end AgreeOn

end Params

/-! ## A template with the values of its own names -/

namespace Template

theorem agreeOn_restrict (t : Template) (p : Params) :
    (p.restrict t.names).AgreeOn p t.tokens := by
  intro name hname
  exact Params.get?_restrict (mem_names.2 hname) p

theorem declaredBy_restrict (t : Template) (p : Params) :
    (p.restrict t.names).DeclaredBy t.tokens := by
  intro key hkey
  rw [Params.keys_restrict, List.mem_filter] at hkey
  exact mem_names.1 (by simpa using hkey.2)

theorem build_restrict_eq_ok_iff {t : Template} {p : Params} {path : String} :
    t.build (p.restrict t.names) = .ok path ↔
      p.Covers t.tokens ∧ path = p.pathFor t.tokens := by
  have hagree := t.agreeOn_restrict p
  rw [build_eq_ok_iff, hagree.pathFor_eq]
  refine ⟨fun ⟨hc, _, hpath⟩ => ⟨hagree.covers hc, hpath⟩, fun ⟨hc, hpath⟩ => ?_⟩
  exact ⟨hagree.symm.covers hc, t.declaredBy_restrict p, hpath⟩

theorem build_restrict_eq_missing_iff {t : Template} {p : Params} {name : String} :
    t.build (p.restrict t.names) = .error (.missingParam name) ↔
      p.FirstMissing t.tokens name := by
  have hagree := t.agreeOn_restrict p
  rw [build_eq_missing_iff]
  exact ⟨hagree.firstMissing, hagree.symm.firstMissing⟩

end Template

/-! ## The walk over joined tokens -/

/-- No name of the first tokens goes on into the second ones. -/
def PlainSeam (first second : List Token) : Prop :=
  ∀ name text, first.getLast? = some (.placeholder name) → second.head? = some (.literal text) →
    Stops isNameChar text.toList

namespace Draft

variable {p : Params}

theorem addAll_leftover_append (d : Draft) (text : List Char) (rest : List Token) :
    d.addAll p (leftover text ++ rest) = d.addAll p (.literal (String.ofList text) :: rest) := by
  unfold leftover
  split
  · next h => simp [h, addAll, add_literal]
  · rfl

/-- The walk makes the same of a literal as of its two parts. -/
theorem addAll_joinOne {token : Token} {tokens : List Token} (h : PlainSeam [token] tokens)
    (d : Draft) : d.addAll p (token.joinOne tokens) = d.addAll p (token :: tokens) := by
  cases tokens with
  | nil => cases token <;> rfl
  | cons next rest =>
    cases next with
    | placeholder => cases token <;> rfl
    | literal text =>
      cases token with
      | literal a => simp [joinOne, addAll, add_literal, String.append_assoc]
      | placeholder name =>
        have hnone := stops_iff.1 (h name text rfl rfl)
        have hall : text.toList.dropWhile isNameChar = text.toList := by
          have hsplit := List.takeWhile_append_dropWhile (p := isNameChar) (l := text.toList)
          rwa [hnone, List.nil_append] at hsplit
        simp [joinOne, hnone, hall, addAll, addAll_leftover_append]

theorem addAll_join {first second : List Token} (h : PlainSeam first second) (d : Draft) :
    d.addAll p (join first second) = d.addAll p (first ++ second) := by
  fun_induction join first second generalizing d with
  | case1 => rfl
  | case2 last second => exact addAll_joinOne h d
  | case3 token next rest second ih =>
    rw [List.cons_append, addAll, addAll]
    cases d.add p token with
    | error e => rfl
    | ok draft =>
      refine ih (fun name text hlast => h name text ?_) draft
      rwa [List.getLast?_cons_cons]

end Draft

/-! ## The law of joined builds -/

section Law

variable {a b : String} {t u : Template}

theorem plainSeam_of_parse (hb : Template.parse b = .ok u)
    (hseam : (∀ name, t.tokens.getLast? ≠ some (.placeholder name)) ∨ Stops isNameChar b.toList) :
    PlainSeam t.tokens u.tokens := by
  intro name text hlast hhead
  have hstops := hseam.resolve_left fun h => h name hlast
  have hreads := Template.reads_of_parse hb
  have htext := (canonical_of_reads hreads _ rfl).wellFormed _ (List.mem_of_head? hhead)
  obtain ⟨rest, hu⟩ := List.head?_eq_some_iff.1 hhead
  rw [← Template.flatMap_written_of_reads hreads _ rfl, hu, List.flatMap_cons,
    stops_append_iff htext.written_ne_nil] at hstops
  exact hstops

/-- Two texts are built as all tokens of the first, and then all of the second. -/
theorem build_append (ha : Template.parse a = .ok t) (hb : Template.parse b = .ok u)
    (h : PlainSeam t.tokens u.tokens) (p : Params) :
    build (a ++ b) p = Template.build ⟨a ++ b, t.tokens ++ u.tokens⟩ p := by
  rw [build_of_parse_eq_ok (Template.parse_append_of_ok ha hb)]
  unfold Template.build
  rw [Draft.addAll_join h]

/-- Building two templates as one, where no name goes on from the first into the second.
There is a path exactly when each of them has one from the values of its own names, and each
key is a name of one of them. The path is then the first path and the second one behind it.
Otherwise the missing value of the first template is reported, or that of the second, or the
least key that is a name of neither. -/
theorem two_templates_are_built_side_by_side (ha : Template.parse a = .ok t)
    (hb : Template.parse b = .ok u)
    (hseam : (∀ name, t.tokens.getLast? ≠ some (.placeholder name)) ∨ Stops isNameChar b.toList)
    (p : Params) :
    (∀ path, build (a ++ b) p = .ok path ↔
      ∃ first second, build a (p.restrict t.names) = .ok first ∧
        build b (p.restrict u.names) = .ok second ∧
        (∀ key ∈ p.keys, key ∈ t.names ∨ key ∈ u.names) ∧ path = first ++ second) ∧
    (∀ name, build a (p.restrict t.names) = .error (.missingParam name) →
      build (a ++ b) p = .error (.missingParam name)) ∧
    (∀ first name, build a (p.restrict t.names) = .ok first →
      build b (p.restrict u.names) = .error (.missingParam name) →
      build (a ++ b) p = .error (.missingParam name)) ∧
    ∀ first second, build a (p.restrict t.names) = .ok first →
      build b (p.restrict u.names) = .ok second →
      (∃ key ∈ p.keys, key ∉ t.names ∧ key ∉ u.names) →
      ∃ key, p.LeastUndeclared (t.tokens ++ u.tokens) key ∧
        build (a ++ b) p = .error (.unknownParam key) := by
  have hboth := build_append ha hb (plainSeam_of_parse hb hseam) p
  simp only [hboth, build_of_parse_eq_ok ha, build_of_parse_eq_ok hb,
    Template.build_restrict_eq_ok_iff, Template.build_restrict_eq_missing_iff, Template.mem_names]
  refine ⟨fun path => ?_, fun name hm => ?_, ?_, ?_⟩
  · rw [Template.build_eq_ok_iff, Params.covers_append, Params.pathFor_append]
    refine ⟨?_, ?_⟩
    · rintro ⟨⟨hc, hc'⟩, hd, rfl⟩
      exact ⟨_, _, ⟨hc, rfl⟩, ⟨hc', rfl⟩, fun key hkey => List.mem_append.1 (hd key hkey), rfl⟩
    · rintro ⟨_, _, ⟨hc, rfl⟩, ⟨hc', rfl⟩, hd, rfl⟩
      exact ⟨⟨hc, hc'⟩, fun key hkey => List.mem_append.2 (hd key hkey), rfl⟩
  · rw [Template.build_eq_missing_iff]
    exact hm.append_left _
  · rintro first name ⟨hc, -⟩ hm
    rw [Template.build_eq_missing_iff]
    exact hm.append_right hc
  · rintro first second ⟨hc, -⟩ ⟨hc', -⟩ ⟨key, hkey, hnot, hnot'⟩
    rcases Template.build_of_covers (t := ⟨a ++ b, t.tokens ++ u.tokens⟩)
      (Params.covers_append.2 ⟨hc, hc'⟩) with ⟨hd, -⟩ | hleast
    · rcases List.mem_append.1 (hd key hkey) with h | h
      · exact absurd h hnot
      · exact absurd h hnot'
    · exact hleast

end Law

/-- Both templates hold the same name, and their literals meet. -/
theorem two_templates_are_built_side_by_side_with_a_common_name :
    Template.parse "/:id/x" = .ok ⟨"/:id/x", [.literal "/", .placeholder "id", .literal "/x"]⟩ ∧
    Template.parse "y/:id:k" = .ok ⟨"y/:id:k", [.literal "y/", .placeholder "id", .placeholder "k"]⟩ ∧
    build ("/:id/x" ++ "y/:id:k") (.ofList [("id", .string ":7"), ("k", .uint 1)]) =
      .ok "/:7/xy/:71" ∧
    build ("/:id/x" ++ "y/:id:k") (.ofList [("j", .uint 1)]) = .error (.missingParam "id") ∧
    build ("/:id/x" ++ "y/:id:k") (.ofList [("id", .string ":7"), ("k", .absent)]) =
      .error (.missingParam "k") ∧
    ∃ key, build ("/:id/x" ++ "y/:id:k")
      (.ofList [("id", .string ":7"), ("k", .uint 1), ("j", .absent)]) =
        .error (.unknownParam key) := by
  have ha : Template.parse "/:id/x" =
      .ok ⟨"/:id/x", [.literal "/", .placeholder "id", .literal "/x"]⟩ := by cbv
  have hb : Template.parse "y/:id:k" =
      .ok ⟨"y/:id:k", [.literal "y/", .placeholder "id", .placeholder "k"]⟩ := by cbv
  have law := two_templates_are_built_side_by_side ha hb (.inl (by simp))
  refine ⟨ha, hb, ?_, ?_, ?_, ?_⟩
  · exact ((law _).1 _).2 ⟨"/:7/x", "y/:71", by cbv, by cbv, by decide, by cbv⟩
  · exact (law _).2.1 _ (by cbv)
  · exact (law _).2.2.1 "/:7/x" _ (by cbv) (by cbv)
  · obtain ⟨key, -, hkey⟩ := (law (.ofList [("id", .string ":7"), ("k", .uint 1),
      ("j", .absent)])).2.2.2 "/:7/x" "y/:71" (by cbv) (by cbv) ⟨"j", by decide⟩
    exact ⟨key, hkey⟩

end PathTemplate
