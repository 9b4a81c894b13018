-- The command and the library. To build with bindings is to build with the texts of
-- values, so the command writes what the library gives for the values themselves. To
-- list the names of a template is to list the keys of the bindings that it needs.
import Mathlib
import PathTemplate.Command.Run
import PathTemplate.Proofs.Alike
import PathTemplate.Proofs.Arguments
import PathTemplate.Proofs.Canonical
import PathTemplate.Proofs.Events

namespace PathTemplate

/-! ## Lines of a text -/

namespace Text

/-- The lines of a text, each of which ends with a line feed. What stands behind the last
line feed is no line. -/
def linesOf (s : String) : List String := (partsAt '\n' s.toList).dropLast.map String.ofList

theorem linesOf_join {lines : List String} (h : ∀ line ∈ lines, '\n' ∉ line.toList) :
    linesOf (String.join (lines.map (· ++ "\n"))) = lines := by
  have htext : (String.join (lines.map (· ++ "\n"))).toList =
      (lines.map String.toList).flatMap (· ++ ['\n']) := by
    simp [String.toList_join, List.flatMap_map]
  have hparts : ∀ part ∈ lines.map String.toList, '\n' ∉ part := by
    rintro _ hpart
    obtain ⟨line, hline, rfl⟩ := List.mem_map.1 hpart
    exact h line hline
  rw [linesOf, htext, dropLast_partsAt hparts, List.map_map]
  simp [Function.comp_def]

end Text

/-- Names are runs of name characters, and so they hold no line feed. -/
theorem Template.newline_not_mem_of_mem_names {s : String} {t : Template} (h : parse s = .ok t)
    {name : String} (hname : name ∈ t.names) : '\n' ∉ name.toList := by
  have hcanonical := canonical_of_reads (reads_of_parse h) t.tokens rfl
  have hrun : IsRun isNameChar name.toList := hcanonical.wellFormed _ (mem_names.1 hname)
  intro hmem
  exact absurd (hrun.all _ hmem) (by decide)

/-! ## The standard log -/

namespace Log

/-- The library has no warnings, so the standard log is empty. -/
theorem lines_standard (events : List Event) : (Filter.standard false).lines events = [] := by
  have hnone : ∀ e ∈ events, (Filter.standard false).allows e ≠ true := by
    intro e _
    rw [Filter.standard, Filter.allows_single]
    cases e <;> simp [Rule.shows, Event.level, Level.verbosity]
  rw [Filter.lines, List.filter_eq_nil_iff.2 hnone, List.map_nil]

end Log

namespace Command

/-! ## Outcomes -/

namespace Outcome

/-- How a run ends, and what it writes besides the log. -/
structure Writes (o : Outcome) (code : Nat) (output errors : String) : Prop where
  code_eq : o.status.code = code
  output_eq : o.output = output
  errors_eq : o.errors = errors

section Observed

variable {α : Type} {filter : Log.Filter} {output : α → String} {seen : Log.Observed α}

theorem writes_of_ok {a : α} (h : seen.result = .ok a) :
    (ofObserved filter output seen).Writes 0 (output a) "" := by
  unfold ofObserved
  rw [h]
  exact ⟨rfl, rfl, rfl⟩

theorem writes_of_error {e : Error} (h : seen.result = .error e) :
    (ofObserved filter output seen).Writes 1 "" (errorLine e) := by
  unfold ofObserved
  rw [h]
  exact ⟨rfl, rfl, rfl⟩

theorem log_ofObserved : (ofObserved filter output seen).log = filter.lines seen.events := by
  unfold ofObserved
  cases seen.result <;> rfl

theorem code_eq_zero_iff :
    (ofObserved filter output seen).status.code = 0 ↔ ∃ a, seen.result = .ok a := by
  cases h : seen.result with
  | ok a => simp [(writes_of_ok h).code_eq]
  | error e => simp [(writes_of_error h).code_eq]

theorem code_eq_one_iff :
    (ofObserved filter output seen).status.code = 1 ↔ ¬ ∃ a, seen.result = .ok a := by
  cases h : seen.result with
  | ok a => simp [(writes_of_ok h).code_eq]
  | error e => simp [(writes_of_error h).code_eq]

end Observed

end Outcome

/-! ## Runs -/

section Requests

variable {arguments : List String} {s : String} {verbose : Bool}

/-- What the arguments ask for is carried out. -/
theorem run_eq_of_task {task : Task}
    (h : Request.ofArguments arguments = .ok (.run s task verbose)) (asked : Option String) :
    run asked arguments = task.run (chooseFilter asked verbose) s := by
  unfold run
  rw [h]

/-- A build with bindings of different keys is a build of the library. -/
theorem run_eq_of_nodup {bindings : List Binding}
    (h : Request.ofArguments arguments = .ok (.run s (.build bindings) verbose))
    (hkeys : (bindings.map Binding.key).Nodup) (asked : Option String) :
    run asked arguments = .ofObserved (chooseFilter asked verbose) pathOutput
      (Log.observedBuild s (.ofList (bindings.map Binding.entry))) := by
  rw [run_eq_of_task h]
  simp only [Task.run, Binding.collect_eq_ok hkeys]

end Requests

/-- To list the names is to read the template. -/
theorem run_list (asked : Option String) (s : String) :
    run asked (listArguments s) =
      .ofObserved (chooseFilter asked false) namesOutput (Log.observedParse s) := by
  rw [run_eq_of_task (Request.ofArguments_list s)]
  rfl

/-- To build with bindings is to build with their entries. -/
theorem run_build {bindings : List Binding} (h : ∀ b ∈ bindings, b.WellFormed)
    (hkeys : (bindings.map Binding.key).Nodup) (asked : Option String) (s : String) :
    run asked (buildArguments s bindings) =
      .ofObserved (chooseFilter asked false) pathOutput
        (Log.observedBuild s (.ofList (bindings.map Binding.entry))) := by
  rw [run_eq_of_nodup (Request.ofArguments_build h s) hkeys]

/-! ## Values as bindings -/

namespace Binding

/-- An entry of params as it is given on a command line, with the text of its value. -/
def ofEntry (e : String × Value) : Binding := ⟨e.1, e.2.text⟩

variable {p : Params} {entries : List (String × Value)}

theorem map_key_ofEntry : (entries.map ofEntry).map key = entries.map Prod.fst := by
  rw [List.map_map]
  rfl

theorem wellFormed_ofEntry (hkeys : ∀ key ∈ p.keys, IsRun isKeyChar key.toList)
    (horder : entries.Perm p.entries) : ∀ b ∈ entries.map ofEntry, b.WellFormed := by
  intro b hb
  obtain ⟨e, he, rfl⟩ := List.mem_map.1 hb
  exact hkeys e.1 (List.mem_map_of_mem (horder.mem_iff.1 he))

theorem nodup_ofEntry (horder : entries.Perm p.entries) :
    ((entries.map ofEntry).map key).Nodup := by
  rw [map_key_ofEntry]
  exact (horder.map Prod.fst).nodup_iff.2 p.nodup_keys

/-- What is collected from the bindings of params cannot be told from the params. -/
theorem alike_ofEntry (hpresent : ∀ e ∈ p.entries, e.2 ≠ .absent)
    (horder : entries.Perm p.entries) :
    p.Alike (.ofList ((entries.map ofEntry).map entry)) := by
  apply Params.alike_of_texts hpresent
  intro key
  have htexts : (entries.map ofEntry).map entry =
      entries.map fun e => (e.1, Value.string e.2.text) := by
    rw [List.map_map]
    rfl
  have hnodup : (((entries.map ofEntry).map entry).map Prod.fst).Nodup := by
    rw [map_fst_entry]
    exact nodup_ofEntry horder
  rw [Params.get?_ofList_of_nodup hnodup, htexts,
    Params.lookup_map_value fun value => .string value.text,
    Params.lookup_eq_of_perm p.nodup_keys horder, Params.get?]

end Binding

/-- The command is given a template and the texts of the values of some params, in any order.
It ends as the library does with the params themselves: with the path, or with the code and
the message of the error. If no log is asked for, nothing else is written. -/
theorem the_command_builds_what_the_library_builds (asked : Option String) (s : String)
    {p : Params} (hpresent : ∀ e ∈ p.entries, e.2 ≠ .absent)
    (hkeys : ∀ key ∈ p.keys, IsRun Binding.isKeyChar key.toList)
    {entries : List (String × Value)} (horder : entries.Perm p.entries) :
    (∀ path, build s p = .ok path →
      (run asked (buildArguments s (entries.map .ofEntry))).Writes 0 (path ++ "\n") "") ∧
    (∀ e, build s p = .error e →
      (run asked (buildArguments s (entries.map .ofEntry))).Writes 1 ""
        ("error[" ++ e.code.text ++ "]: " ++ e.message ++ "\n")) ∧
    (run none (buildArguments s (entries.map .ofEntry))).log = [] := by
  have hwell := Binding.wellFormed_ofEntry hkeys horder
  have hnodup := Binding.nodup_ofEntry horder
  have hbuild := build_eq_of_alike (Binding.alike_ofEntry hpresent horder) s
  rw [run_build hwell hnodup, run_build hwell hnodup, hbuild, ← Log.result_observedBuild]
  refine ⟨?_, ?_, ?_⟩
  · intro path h
    exact Outcome.writes_of_ok h
  · intro e h
    exact Outcome.writes_of_error h
  · rw [Outcome.log_ofObserved]
    exact Log.lines_standard _

/-- The template looks like a flag and holds an equals sign, and so does a value. -/
theorem the_command_builds_what_the_library_builds_behind_a_double_dash :
    (Params.ofList [("b", .string "=:7"), ("a", .int (-5))]).entries =
      [("a", .int (-5)), ("b", .string "=:7")] ∧
    IsRun Binding.isKeyChar "a".toList ∧ IsRun Binding.isKeyChar "b".toList ∧
    (run (some "trace") ["--", "--x=/:a-:b", "b==:7", "a=-5"]).Writes 0 "--x=/-5-=:7\n" "" ∧
    (run (some "trace") ["--", "-v:c", "b==:7", "a=-5"]).Writes 1 ""
      "error[MISSING_PARAM]: missing param \"c\"\n" ∧
    (run none ["--", "-v:c", "b==:7", "a=-5"]).log = [] := by
  have hentries : (Params.ofList [("b", .string "=:7"), ("a", .int (-5))]).entries =
      [("a", .int (-5)), ("b", .string "=:7")] := by
    cbv
  have hpresent : ∀ e ∈ (Params.ofList [("b", .string "=:7"), ("a", .int (-5))]).entries,
      e.2 ≠ .absent := by
    rw [hentries]
    decide
  have hkeys : ∀ key ∈ (Params.ofList [("b", .string "=:7"), ("a", .int (-5))]).keys,
      IsRun Binding.isKeyChar key.toList := by
    rw [Params.keys, hentries]
    decide
  have horder : [("b", Value.string "=:7"), ("a", .int (-5))].Perm
      (Params.ofList [("b", .string "=:7"), ("a", .int (-5))]).entries := by
    rw [hentries]
    exact .swap _ _ _
  have law (s : String) :=
    the_command_builds_what_the_library_builds (some "trace") s hpresent hkeys horder
  refine ⟨hentries, by decide, by decide, ?_, ?_, ?_⟩
  · exact (law "--x=/:a-:b").1 "--x=/-5-=:7" (by cbv)
  · exact (law "-v:c").2.1 (.missingParam "c") (by cbv)
  · exact (law "-v:c").2.2

/-! ## Listed names as keys -/

section Names

variable {bindings : List Binding}

theorem supplies_iff_mem (hkeys : (bindings.map Binding.key).Nodup) {name : String} :
    (Params.ofList (bindings.map Binding.entry)).Supplies name ↔ name ∈ bindings.map Binding.key := by
  rw [← Binding.map_fst_entry] at hkeys ⊢
  rw [← Params.mem_keys_ofList, ← Params.isSome_get?_iff, Option.isSome_iff_exists]
  refine ⟨fun ⟨value, hget, _⟩ => ⟨value, hget⟩, ?_⟩
  rintro ⟨value, hget⟩
  refine ⟨value, hget, ?_⟩
  rw [Params.get?_ofList_of_nodup hkeys, Params.lookup_eq_some_iff_mem hkeys] at hget
  obtain ⟨b, -, hb⟩ := List.mem_map.1 hget
  cases hb
  exact Value.noConfusion

/-- The bindings that a build needs are those of the names, and no others. -/
theorem exists_build_eq_ok_iff (hkeys : (bindings.map Binding.key).Nodup) (t : Template) :
    (∃ path, t.build (.ofList (bindings.map Binding.entry)) = .ok path) ↔
      ∀ key, key ∈ bindings.map Binding.key ↔ key ∈ t.names := by
  simp only [Template.build_eq_ok_iff, exists_and_left, exists_eq, and_true]
  simp only [Params.Covers, Params.DeclaredBy, supplies_iff_mem hkeys, Params.mem_keys_ofList,
    Binding.map_fst_entry, ← Template.mem_names]
  exact ⟨fun h key => ⟨h.2 key, h.1 key⟩, fun h => ⟨fun key => (h key).2, fun key => (h key).1⟩⟩

end Names

/-- To list the names succeeds exactly for a template, and writes each name on a line of its
own. These lines are the keys that a build of the template needs: with bindings of just these
keys the command succeeds, and with others it fails. A text that is no template fails in the
same way for both. -/
theorem the_listed_names_are_the_keys_that_a_build_needs (asked : Option String) (s : String) :
    ((run asked (listArguments s)).status.code = 0 ↔ ∃ t, Template.parse s = .ok t) ∧
    (∀ t, Template.parse s = .ok t →
      (run asked (listArguments s)).output = String.join (t.names.map (· ++ "\n")) ∧
      (∀ name ∈ t.names, '\n' ∉ name.toList) ∧
      Text.linesOf (run asked (listArguments s)).output = t.names) ∧
    ∀ bindings : List Binding, (∀ b ∈ bindings, b.WellFormed) →
      (bindings.map Binding.key).Nodup →
      (∀ t, Template.parse s = .ok t →
        ((run asked (buildArguments s bindings)).status.code = 0 ↔
          ∀ key, key ∈ bindings.map Binding.key ↔
            key ∈ Text.linesOf (run asked (listArguments s)).output) ∧
        ((run asked (buildArguments s bindings)).status.code = 1 ↔
          ¬ ∀ key, key ∈ bindings.map Binding.key ↔
            key ∈ Text.linesOf (run asked (listArguments s)).output)) ∧
      ∀ e, Template.parse s = .error e →
        (run asked (listArguments s)).Writes 1 ""
          ("error[INVALID_PARAM_DECLARATION]: " ++ e.message ++ "\n") ∧
        (run asked (buildArguments s bindings)).Writes 1 ""
          ("error[INVALID_PARAM_DECLARATION]: " ++ e.message ++ "\n") := by
  have hlist := Log.result_observedParse s
  have hnames (t : Template) (ht : Template.parse s = .ok t) :
      (run asked (listArguments s)).output = namesOutput t := by
    rw [run_list]
    exact (Outcome.writes_of_ok (hlist.trans ht)).output_eq
  have hlines (t : Template) (ht : Template.parse s = .ok t) :
      Text.linesOf (run asked (listArguments s)).output = t.names := by
    rw [hnames t ht]
    exact Text.linesOf_join fun name => Template.newline_not_mem_of_mem_names ht
  refine ⟨?_, fun t ht => ?_, fun bindings hwell hkeys => ⟨fun t ht => ?_, fun e he => ?_⟩⟩
  · rw [run_list, Outcome.code_eq_zero_iff, hlist]
  · exact ⟨hnames t ht, fun name => Template.newline_not_mem_of_mem_names ht, hlines t ht⟩
  · have hbuild := exists_build_eq_ok_iff hkeys t
    rw [← build_of_parse_eq_ok ht, ← Log.result_observedBuild] at hbuild
    rw [hlines t ht, run_build hwell hkeys, Outcome.code_eq_zero_iff, Outcome.code_eq_one_iff, hbuild]
    exact ⟨Iff.rfl, Iff.rfl⟩
  · have hbuild := (Log.result_observedBuild s _).trans
      (build_of_parse_eq_error he (.ofList (bindings.map Binding.entry)))
    obtain ⟨i, -, rfl⟩ := Template.parse_eq_error_iff.1 he
    rw [run_list, run_build hwell hkeys]
    exact ⟨Outcome.writes_of_error (hlist.trans he), Outcome.writes_of_error hbuild⟩

/-- A name comes twice, the bindings come in another order, and one is left out. -/
theorem the_listed_names_are_the_keys_that_a_build_needs_with_a_common_name :
    Template.parse "/:b/:a:b" = .ok ⟨"/:b/:a:b", [.literal "/", .placeholder "b", .literal "/",
      .placeholder "a", .placeholder "b"]⟩ ∧
    (run none ["--list", "--", "/:b/:a:b"]).output = "b\na\n" ∧
    (∀ b ∈ [Binding.mk "a" "x=\n", ⟨"b", ""⟩], b.WellFormed) ∧
    ([Binding.mk "a" "x=\n", ⟨"b", ""⟩].map Binding.key).Nodup ∧
    (run none ["--", "/:b/:a:b", "a=x=\n", "b="]).status.code = 0 ∧
    (run none ["--", "/:b/:a:b", "a=x=\n"]).status.code = 1 ∧
    (run none ["--", "/:b/:", "a=x=\n"]).Writes 1 ""
      ("error[INVALID_PARAM_DECLARATION]: invalid param declaration at position 4: " ++
        "param names must match [A-Za-z0-9_]+\n") := by
  have hparse : Template.parse "/:b/:a:b" = .ok ⟨"/:b/:a:b", [.literal "/", .placeholder "b",
      .literal "/", .placeholder "a", .placeholder "b"]⟩ := by
    cbv
  have hboth : ∀ b ∈ [Binding.mk "a" "x=\n", ⟨"b", ""⟩], b.WellFormed := by decide
  have hone : ∀ b ∈ [Binding.mk "a" "x=\n"], b.WellFormed := by decide
  have hkeys : ([Binding.mk "a" "x=\n", ⟨"b", ""⟩].map Binding.key).Nodup := by decide
  have law := the_listed_names_are_the_keys_that_a_build_needs none "/:b/:a:b"
  obtain ⟨houtput, -, hlines⟩ := law.2.1 _ hparse
  have hnames : Template.names ⟨"/:b/:a:b", [.literal "/", .placeholder "b", .literal "/",
      .placeholder "a", .placeholder "b"]⟩ = ["b", "a"] := by
    decide
  rw [hnames] at hlines houtput
  refine ⟨hparse, houtput, hboth, hkeys, ?_, ?_, ?_⟩
  · refine ((law.2.2 _ hboth hkeys).1 _ hparse).1.2 fun key => ?_
    rw [hlines]
    simp [or_comm]
  · refine ((law.2.2 _ hone (by decide)).1 _ hparse).2.2 fun h => ?_
    rw [hlines] at h
    exact absurd ((h "b").2 (by decide)) (by decide)
  · have hbare : Template.parse "/:b/:" = .error (.invalidDeclaration 4) := by cbv
    have law := the_listed_names_are_the_keys_that_a_build_needs none "/:b/:"
    exact ((law.2.2 _ hone (by decide)).2 _ hbare).2

end Command

end PathTemplate
