-- How a run of the command ends. The arguments alone decide it: what the environment
-- asks for is the log, and the log stands apart. A run that ends badly writes nothing to
-- the standard output, and one that ends well nothing but the log to the standard error.
import Mathlib
import PathTemplate.Proofs.CommandLine
import PathTemplate.Proofs.RepeatedKeys

namespace PathTemplate.Command

/-! ## Endings -/

/-- The call of the library that is asked for fails. A build is only tried if no key is
bound twice. -/
inductive Request.Fails : Request → Error → Prop
  | names {s verbose e} : Template.parse s = .error e → Fails (.run s .names verbose) e
  | build {s bindings verbose e} : (bindings.map Binding.key).Nodup →
      PathTemplate.build s (.ofList (bindings.map Binding.entry)) = .error e →
      Fails (.run s (.build bindings) verbose) e

/-- The ways in which a run can end: its status, and what it writes besides the log. -/
inductive Ends (arguments : List String) : Nat → String → String → Prop
  | misused {e} : Request.ofArguments arguments = .error e → Ends arguments 2 "" e.line
  | helped : Request.ofArguments arguments = .ok .help → Ends arguments 0 helpText ""
  | versioned : Request.ofArguments arguments = .ok .version → Ends arguments 0 versionText ""
  | listed {s verbose t} : Request.ofArguments arguments = .ok (.run s .names verbose) →
      Template.parse s = .ok t → Ends arguments 0 (namesOutput t) ""
  | repeated {s bindings verbose key} :
      Request.ofArguments arguments = .ok (.run s (.build bindings) verbose) →
      Binding.collect bindings = .error key → Ends arguments 2 "" (repeatedKeyLine key)
  | built {s bindings verbose path} :
      Request.ofArguments arguments = .ok (.run s (.build bindings) verbose) →
      (bindings.map Binding.key).Nodup →
      build s (.ofList (bindings.map Binding.entry)) = .ok path →
      Ends arguments 0 (pathOutput path) ""
  | failed {request e} : Request.ofArguments arguments = .ok request → request.Fails e →
      Ends arguments 1 "" (errorLine e)

namespace Ends

variable {arguments : List String} {code : Nat} {output errors : String}

theorem code_eq (h : Ends arguments code output errors) : code = 0 ∨ code = 1 ∨ code = 2 := by
  cases h with
  | helped | versioned | listed | built => exact Or.inl rfl
  | failed => exact Or.inr (Or.inl rfl)
  | misused | repeated => exact Or.inr (Or.inr rfl)

theorem output_eq (h : Ends arguments code output errors) (hcode : code ≠ 0) : output = "" := by
  cases h with
  | helped | versioned | listed | built => exact absurd rfl hcode
  | failed | misused | repeated => rfl

theorem errors_eq (h : Ends arguments code output errors) (hcode : code = 0) : errors = "" := by
  cases h with
  | helped | versioned | listed | built => rfl
  | failed | misused | repeated => cases hcode

end Ends

/-! ## Runs -/

section Runs

variable {arguments : List String} {code : Nat} {output errors : String}

/-- Whatever log is asked for, a run ends in a way that the arguments allow. -/
theorem Ends.writes (h : Ends arguments code output errors) (asked : Option String) :
    (run asked arguments).Writes code output errors := by
  cases h with
  | misused hrequest | helped hrequest | versioned hrequest =>
    unfold run
    rw [hrequest]
    exact ⟨rfl, rfl, rfl⟩
  | @listed s _ _ hrequest ht =>
    rw [run_eq_of_task hrequest]
    exact Outcome.writes_of_ok ((Log.result_observedParse s).trans ht)
  | repeated hrequest hkey =>
    rw [run_eq_of_task hrequest]
    simp only [Task.run, hkey]
    exact ⟨rfl, rfl, rfl⟩
  | built hrequest hkeys hpath =>
    rw [run_eq_of_nodup hrequest hkeys]
    exact Outcome.writes_of_ok ((Log.result_observedBuild _ _).trans hpath)
  | failed hrequest hfails =>
    cases hfails with
    | names he =>
      rw [run_eq_of_task hrequest]
      exact Outcome.writes_of_error ((Log.result_observedParse _).trans he)
    | build hkeys he =>
      rw [run_eq_of_nodup hrequest hkeys]
      exact Outcome.writes_of_error ((Log.result_observedBuild _ _).trans he)

/-- There is a way to end for all arguments. -/
theorem exists_ends (arguments : List String) :
    ∃ code output errors, Ends arguments code output errors := by
  cases hrequest : Request.ofArguments arguments with
  | error e => exact ⟨_, _, _, .misused hrequest⟩
  | ok request =>
    cases request with
    | help => exact ⟨_, _, _, .helped hrequest⟩
    | version => exact ⟨_, _, _, .versioned hrequest⟩
    | run s task verbose =>
      cases task with
      | names =>
        cases ht : Template.parse s with
        | ok t => exact ⟨_, _, _, .listed hrequest ht⟩
        | error e => exact ⟨_, _, _, .failed hrequest (.names ht)⟩
      | build bindings =>
        by_cases hkeys : (bindings.map Binding.key).Nodup
        · cases hbuild : build s (.ofList (bindings.map Binding.entry)) with
          | ok path => exact ⟨_, _, _, .built hrequest hkeys hbuild⟩
          | error e => exact ⟨_, _, _, .failed hrequest (.build hkeys hbuild)⟩
        · obtain ⟨key, hkey⟩ := Binding.exists_collect_eq_error hkeys
          exact ⟨_, _, _, .repeated hrequest hkey⟩

/-- The ways to end are just what runs do, so there is one for all that can be asked for. -/
theorem ends_iff (asked : Option String) :
    Ends arguments code output errors ↔ (run asked arguments).Writes code output errors := by
  refine ⟨fun h => h.writes asked, fun h => ?_⟩
  obtain ⟨_, _, _, hends⟩ := exists_ends arguments
  have hwrites := hends.writes asked
  rw [← h.code_eq, ← h.output_eq, ← h.errors_eq, hwrites.code_eq, hwrites.output_eq,
    hwrites.errors_eq]
  exact hends

theorem ends_run (asked : Option String) (arguments : List String) :
    Ends arguments (run asked arguments).status.code (run asked arguments).output
      (run asked arguments).errors :=
  (ends_iff asked).2 ⟨rfl, rfl, rfl⟩

end Runs

/-! ## The standard error as lines -/

/-- The control sequences in front of the first word are left out. -/
theorem UsageError.exists_toList_line (e : UsageError) :
    ∃ rest, e.line.toList = "error:".toList ++ rest := by
  have hshown : ∃ rest, Text.plain (Text.highlighted "error:" ++ " " ++ e.message ++ helpHint) =
      String.ofList ("error:".toList ++ rest) := by
    unfold Text.plain Text.highlighted
    simp only [String.toList_append, List.append_assoc]
    exact ⟨_, rfl⟩
  obtain ⟨rest, hrest⟩ := hshown
  unfold UsageError.line
  simp [hrest]

theorem UsageError.head?_line (e : UsageError) : e.line.toList.head? = some 'e' := by
  obtain ⟨rest, hrest⟩ := e.exists_toList_line
  simp [hrest]

theorem head?_repeatedKeyLine (key : String) : (repeatedKeyLine key).toList.head? = some 'e' := by
  simp [repeatedKeyLine]

theorem head?_errorLine (e : Error) : (errorLine e).toList.head? = some 'e' := by
  simp [errorLine]

/-- What is written besides the log is an error, if it is anything. -/
theorem Ends.head?_errors {arguments : List String} {code : Nat} {output errors : String}
    (h : Ends arguments code output errors) :
    errors = "" ∨ errors.toList.head? = some 'e' := by
  cases h with
  | helped | versioned | listed | built => exact Or.inl rfl
  | misused => exact Or.inr (UsageError.head?_line _)
  | repeated => exact Or.inr (head?_repeatedKeyLine _)
  | failed => exact Or.inr (head?_errorLine _)

/-- A reader of lines finds the log and what is written besides it, exactly if each entry of the
log is a line. -/
theorem transcript_run_iff {asked : Option String} {arguments : List String} :
    (run asked arguments).transcript = ⟨(run asked arguments).log, (run asked arguments).errors⟩ ↔
      ∀ entry ∈ (run asked arguments).log, Log.Transcript.IsLine entry := by
  apply Log.Transcript.ofEntries_eq_iff
  -- An error does not begin like a time.
  intro c hc
  rcases (ends_run asked arguments).head?_errors with hnone | hletter
  · simp [hnone] at hc
  · rw [hletter] at hc
    cases hc
    rfl

/-! ## The law -/

-- The template is wrong as well, but it is not read.
example : run none ["/:", "a=1", "-v", "a=2"] =
    ⟨.misuse, "", "error: param `a` given more than once\n", []⟩ := by
  cbv

end PathTemplate.Command
