-- Giving values to the names that a build lacks. Each build reports the first name that
-- has no value, and once it has one, the next build reports the next name. So the names
-- without a value are reported one after the other, each once, and then only the keys
-- without a placeholder are left to be wrong.
import Mathlib
import PathTemplate.Proofs.Building
import PathTemplate.Proofs.Entries
import PathTemplate.Proofs.Names

namespace PathTemplate

/-! ## What is missing -/

namespace Params

/-- The name has no value, or the absent one. -/
def lacks (p : Params) (name : String) : Bool := (p.get? name).all Value.isAbsent

variable {p : Params} {name : String} {value : Value}

theorem lacks_iff : p.lacks name = true ↔ p.get? name = none ∨ p.get? name = some .absent := by
  unfold lacks
  cases p.get? name with
  | none => simp
  | some stored => simp [Value.isAbsent_iff]

theorem lacks_eq_true_iff : p.lacks name = true ↔ ¬ p.Supplies name := by
  rw [lacks_iff]
  unfold Supplies
  cases p.get? name with
  | none => simp
  | some stored => simp

/-- A value for one name leaves the other names as they are. -/
theorem lacks_insert (h : value ≠ .absent) (p : Params) (name other : String) :
    (p.insert name value).lacks other = (p.lacks other && other != name) := by
  unfold lacks
  rw [get?_insert]
  by_cases hother : other = name
  · have hvalue : value.isAbsent = false := Bool.eq_false_iff.2 (mt Value.isAbsent_iff.1 h)
    simp [hother, hvalue]
  · simp [hother]

theorem covers_iff {tokens : List Token} :
    p.Covers tokens ↔ (tokens.filterMap Token.name?).find? p.lacks = none := by
  rw [List.find?_eq_none]
  simp only [Token.mem_filterMap_name?, lacks_eq_true_iff, not_not]
  exact Iff.rfl

theorem find?_lacks_of_firstMissing {tokens : List Token} (h : p.FirstMissing tokens name) :
    (tokens.filterMap Token.name?).find? p.lacks = some name := by
  obtain ⟨before, after, rfl, hbefore, hname⟩ := h
  rw [List.filterMap_append, List.find?_append, covers_iff.1 hbefore, Option.none_or]
  exact List.find?_cons_of_pos (lacks_eq_true_iff.2 hname)

/-- The first placeholder without a value is the first one whose name lacks one. -/
theorem firstMissing_iff {tokens : List Token} :
    p.FirstMissing tokens name ↔ (tokens.filterMap Token.name?).find? p.lacks = some name := by
  refine ⟨find?_lacks_of_firstMissing, fun h => ?_⟩
  rcases p.covers_or_firstMissing tokens with hcovers | ⟨other, hother⟩
  · rw [covers_iff, h] at hcovers
    cases hcovers
  · have hsame := find?_lacks_of_firstMissing hother
    rw [h] at hsame
    cases hsame
    exact hother

end Params

namespace Template

/-- The names that have no value yet, in the order in which the template first holds them. -/
def missing (t : Template) (p : Params) : List String := t.names.filter p.lacks

variable {t : Template} {p : Params} {name : String} {value : Value}

theorem mem_missing : name ∈ t.missing p ↔
    name ∈ t.names ∧ (p.get? name = none ∨ p.get? name = some .absent) := by
  unfold missing
  rw [List.mem_filter, Params.lacks_iff]

theorem nodup_missing (t : Template) (p : Params) : (t.missing p).Nodup := t.nodup_names.filter _

theorem head?_missing : (t.missing p).head? = (t.tokens.filterMap Token.name?).find? p.lacks := by
  unfold missing
  rw [List.head?_filter, find?_names]

/-- A build reports the first name that is missing. -/
theorem build_eq_missing_iff_head? :
    t.build p = .error (.missingParam name) ↔ (t.missing p).head? = some name := by
  rw [build_eq_missing_iff, Params.firstMissing_iff, head?_missing]

/-- With a value for the first name that is missing, the others are missing as before. -/
theorem missing_insert {rest : List String} (h : t.missing p = name :: rest)
    (hvalue : value ≠ .absent) : t.missing (p.insert name value) = rest := by
  have hnodup := t.nodup_missing p
  have hothers : t.missing (p.insert name value) = (t.missing p).filter (· != name) := by
    unfold missing
    rw [List.filter_filter]
    apply List.filter_congr
    intro other _
    rw [Params.lacks_insert hvalue, Bool.and_comm]
  rw [h, List.nodup_cons] at hnodup
  rw [hothers, h, List.filter_cons_of_neg (by simp), List.filter_eq_self]
  intro other hother
  have hne : other ≠ name := by
    rintro rfl
    exact hnodup.1 hother
  simpa using hne

end Template

/-! ## Runs of repairs -/

/-- Values were given to some params: each time a build of the text lacked a value, the name that
it reported got one. -/
inductive Repaired (s : String) (p : Params) : List (String × Value) → Params → Prop
  | start : Repaired s p [] p
  | step {repairs q name value} : Repaired s p repairs q →
      build s q = .error (.missingParam name) → value ≠ .absent →
      Repaired s p (repairs ++ [(name, value)]) (q.insert name value)

namespace Repaired

variable {s : String} {t : Template} {p q : Params} {repairs : List (String × Value)}

/-- What was missing at the start was repaired, or is still missing. -/
theorem missing_eq_append (h : Repaired s p repairs q) (ht : Template.parse s = .ok t) :
    t.missing p = repairs.map Prod.fst ++ t.missing q := by
  induction h with
  | start => rfl
  | @step repairs q name value _ hmissing hvalue ih =>
    rw [build_of_parse_eq_ok ht, Template.build_eq_missing_iff_head?,
      List.head?_eq_some_iff] at hmissing
    obtain ⟨rest, hrest⟩ := hmissing
    rw [ih, hrest, Template.missing_insert hrest hvalue, List.map_append]
    simp

/-- Only keys with a placeholder are added. -/
theorem mem_keys_iff (h : Repaired s p repairs q) (ht : Template.parse s = .ok t) {key : String}
    (hkey : .placeholder key ∉ t.tokens) : key ∈ p.keys ↔ key ∈ q.keys := by
  induction h with
  | start => exact Iff.rfl
  | @step repairs q name value _ hmissing _ ih =>
    rw [build_of_parse_eq_ok ht, Template.build_eq_missing_iff_head?] at hmissing
    have hname := (Template.mem_missing.1 (List.mem_of_head? hmissing)).1
    have hne : key ≠ name := by
      rintro rfl
      exact hkey (Template.mem_names.1 hname)
    rw [ih, Params.mem_keys_insert]
    simp [hne]

/-- When nothing is missing any more, only the keys decide. -/
theorem build_of_missing_eq_nil (h : Repaired s p repairs q) (ht : Template.parse s = .ok t)
    (hnone : t.missing q = []) :
    (p.DeclaredBy t.tokens ∧ ∃ path, build s q = .ok path) ∨
      ∃ key, p.LeastUndeclared t.tokens key ∧ build s q = .error (.unknownParam key) := by
  have hcovers : q.Covers t.tokens := by
    rw [Params.covers_iff, ← Template.head?_missing, hnone]
    rfl
  have hkeys : ∀ key, .placeholder key ∉ t.tokens → (key ∈ p.keys ↔ key ∈ q.keys) := by
    intro key
    exact h.mem_keys_iff ht
  rw [build_of_parse_eq_ok ht, Params.declaredBy_congr hkeys]
  simp only [Params.leastUndeclared_congr hkeys]
  rcases Template.build_of_covers hcovers with ⟨hd, hok⟩ | hunknown
  · exact Or.inl ⟨hd, _, hok⟩
  · exact Or.inr hunknown

end Repaired

/-! ## The law -/

/-- However the values are chosen, the names that get one are the names of the template that had
none at the start, in the order of the template. As long as not all of them have one, the build
reports the next of them, and any value for it takes the run on. When all of them have one, the
run is over: the build succeeds if each key of the start has a placeholder, and else it reports
the least key that has none. -/
theorem each_missing_name_is_reported_once {s : String} {t : Template}
    (ht : Template.parse s = .ok t) {p q : Params} {repairs : List (String × Value)}
    (h : Repaired s p repairs q) :
    ((t.missing p).Nodup ∧ (t.missing p).Sublist t.names ∧
      ∀ name, name ∈ t.missing p ↔
        name ∈ t.names ∧ (p.get? name = none ∨ p.get? name = some .absent)) ∧
    repairs.map Prod.fst = (t.missing p).take repairs.length ∧
    repairs.length ≤ (t.missing p).length ∧
    (∀ name, (t.missing p)[repairs.length]? = some name →
      build s q = .error (.missingParam name) ∧ ∀ value, value ≠ .absent →
        Repaired s p (repairs ++ [(name, value)]) (q.insert name value)) ∧
    (repairs.length = (t.missing p).length →
      (p.DeclaredBy t.tokens ∧ ∃ path, build s q = .ok path) ∨
        ∃ key, p.LeastUndeclared t.tokens key ∧ build s q = .error (.unknownParam key)) := by
  have hmissing := h.missing_eq_append ht
  have hlength : (repairs.map Prod.fst).length = repairs.length := List.length_map _
  refine ⟨⟨t.nodup_missing p, List.filter_sublist, fun name => Template.mem_missing⟩, ?_, ?_, ?_, ?_⟩
  · rw [hmissing, List.take_left' hlength]
  · rw [hmissing, List.length_append, hlength]
    exact Nat.le_add_right _ _
  · intro name hname
    rw [hmissing, List.getElem?_append_right hlength.le, hlength, Nat.sub_self,
      ← List.head?_eq_getElem?, ← Template.build_eq_missing_iff_head?,
      ← build_of_parse_eq_ok ht] at hname
    exact ⟨hname, fun value hvalue => h.step hname hvalue⟩
  · intro hall
    apply h.build_of_missing_eq_nil ht
    rw [hmissing, List.length_append, hlength] at hall
    exact List.length_eq_zero_iff.1 (by omega)

/-- A name that comes twice has the absent value, another has none, and a key has no placeholder. -/
theorem each_missing_name_is_reported_once_with_an_absent_value :
    Template.parse "/:b/:a:b:c" = .ok ⟨"/:b/:a:b:c", [.literal "/", .placeholder "b", .literal "/",
      .placeholder "a", .placeholder "b", .placeholder "c"]⟩ ∧
    Repaired "/:b/:a:b:c" (.ofList [("c", .int 0), ("b", .absent), ("x", .uint 1)])
      [("b", .bool true)] (.ofList [("c", .int 0), ("b", .bool true), ("x", .uint 1)]) ∧
    Repaired "/:b/:a:b:c" (.ofList [("c", .int 0), ("b", .absent), ("x", .uint 1)])
      [("b", .bool true), ("a", .string "")]
      (.ofList [("c", .int 0), ("b", .bool true), ("x", .uint 1), ("a", .string "")]) ∧
    build "/:b/:a:b:c" (.ofList [("c", .int 0), ("b", .bool true), ("x", .uint 1),
      ("a", .string "")]) = .error (.unknownParam "x") := by
  have hparse : Template.parse "/:b/:a:b:c" = .ok ⟨"/:b/:a:b:c", [.literal "/", .placeholder "b",
      .literal "/", .placeholder "a", .placeholder "b", .placeholder "c"]⟩ := by
    cbv
  have hfirst : Repaired "/:b/:a:b:c" (.ofList [("c", .int 0), ("b", .absent), ("x", .uint 1)])
      [("b", .bool true)] (.ofList [("c", .int 0), ("b", .bool true), ("x", .uint 1)]) :=
    Repaired.start.step (by cbv) (by decide)
  have hmissing : Template.missing ⟨"/:b/:a:b:c", [.literal "/", .placeholder "b", .literal "/",
      .placeholder "a", .placeholder "b", .placeholder "c"]⟩
      (.ofList [("c", .int 0), ("b", .absent), ("x", .uint 1)]) = ["b", "a"] := by
    decide
  have hkeys : (Params.ofList [("c", .int 0), ("b", .absent), ("x", .uint 1)]).keys =
      ["b", "c", "x"] := by
    cbv
  obtain ⟨-, -, -, hnext, -⟩ := each_missing_name_is_reported_once hparse hfirst
  rw [hmissing] at hnext
  have hboth := (hnext "a" rfl).2 (.string "") (by decide)
  obtain ⟨-, -, -, -, hend⟩ := each_missing_name_is_reported_once hparse hboth
  rw [hmissing] at hend
  refine ⟨hparse, hfirst, hboth, ?_⟩
  rcases hend rfl with ⟨hdeclared, -⟩ | ⟨key, hkey, hbuild⟩
  · rw [Params.DeclaredBy, hkeys] at hdeclared
    exact absurd (hdeclared "x" (by simp)) (by decide)
  · have hmem := hkey.mem
    have hundeclared := hkey.undeclared
    rw [hkeys] at hmem
    simp only [List.mem_cons, List.not_mem_nil, or_false] at hmem
    rcases hmem with rfl | rfl | rfl
    · exact absurd hundeclared (by decide)
    · exact absurd hundeclared (by decide)
    · exact hbuild

end PathTemplate
