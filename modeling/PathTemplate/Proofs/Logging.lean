-- The log of a run. The arguments decide which events there are, and what is asked for about
-- the log decides which of them it shows. So a log is never more than a choice of the events,
-- and what is asked for about it never changes how a run ends. A reader of lines finds the log
-- as it is unless a path or a key ends a line.
import Mathlib
import PathTemplate.Proofs.FilterTexts
import PathTemplate.Proofs.LineEnds

namespace PathTemplate.Command

open Text (InOneLine)

/-! ## The events of a run -/

/-- The events that the library reports in a run. A run that ends before it calls the library
has none. -/
def emitted (arguments : List String) : List Log.Event :=
  match Request.ofArguments arguments with
  | .ok (.run s .names _) => (Log.observedParse s).events
  | .ok (.run s (.build bindings) _) =>
    if (bindings.map Binding.key).Nodup then
      (Log.observedBuild s (.ofList (bindings.map Binding.entry))).events
    else []
  | _ => []

/-- Whether the arguments ask for more words. -/
def isVerbose (arguments : List String) : Bool :=
  match Request.ofArguments arguments with
  | .ok (.run _ _ verbose) => verbose
  | _ => false

section Requests

variable {arguments : List String} {s : String} {bindings : List Binding} {verbose : Bool}

theorem emitted_of_names (h : Request.ofArguments arguments = .ok (.run s .names verbose)) :
    emitted arguments = (Log.observedParse s).events := by
  unfold emitted
  rw [h]

theorem emitted_of_nodup
    (h : Request.ofArguments arguments = .ok (.run s (.build bindings) verbose))
    (hkeys : (bindings.map Binding.key).Nodup) :
    emitted arguments = (Log.observedBuild s (.ofList (bindings.map Binding.entry))).events := by
  unfold emitted
  simp only [h, if_pos hkeys]

theorem emitted_of_repeated
    (h : Request.ofArguments arguments = .ok (.run s (.build bindings) verbose))
    (hkeys : ¬ (bindings.map Binding.key).Nodup) : emitted arguments = [] := by
  unfold emitted
  simp only [h, if_neg hkeys]

theorem emitted_of_no_task
    (h : ∀ s task verbose, Request.ofArguments arguments ≠ .ok (.run s task verbose)) :
    emitted arguments = [] := by
  unfold emitted
  split
  · exact absurd ‹_› (h _ _ _)
  · exact absurd ‹_› (h _ _ _)
  · rfl

theorem isVerbose_of_task {task : Task}
    (h : Request.ofArguments arguments = .ok (.run s task verbose)) :
    isVerbose arguments = verbose := by
  unfold isVerbose
  rw [h]

end Requests

/-! ## The log of a run -/

/-- A run writes the events that its filter shows, and nothing else, to the log. -/
theorem log_run (asked : Option String) (arguments : List String) :
    (run asked arguments).log =
      (chooseFilter asked (isVerbose arguments)).lines (emitted arguments) := by
  have hnone (h : ∀ s task verbose, Request.ofArguments arguments ≠ .ok (.run s task verbose))
      (hlog : (run asked arguments).log = []) :
      (run asked arguments).log =
        (chooseFilter asked (isVerbose arguments)).lines (emitted arguments) := by
    rw [hlog, emitted_of_no_task h]
    rfl
  cases hrequest : Request.ofArguments arguments with
  | error e => exact hnone (by simp [hrequest]) (by simp [run, hrequest])
  | ok request =>
    cases request with
    | help => exact hnone (by simp [hrequest]) (by simp [run, hrequest])
    | version => exact hnone (by simp [hrequest]) (by simp [run, hrequest])
    | run s task verbose =>
      rw [isVerbose_of_task hrequest]
      cases task with
      | names =>
        rw [run_eq_of_task hrequest, emitted_of_names hrequest]
        exact Outcome.log_ofObserved
      | build bindings =>
        by_cases hkeys : (bindings.map Binding.key).Nodup
        · rw [run_eq_of_nodup hrequest hkeys, emitted_of_nodup hrequest hkeys]
          exact Outcome.log_ofObserved
        · obtain ⟨key, hkey⟩ := Binding.exists_collect_eq_error hkeys
          rw [run_eq_of_task hrequest, emitted_of_repeated hrequest hkeys]
          simp only [Task.run, hkey]
          rfl

theorem log_run_setting (setting : Log.Setting) (arguments : List String) :
    (run setting.text? arguments).log =
      ((emitted arguments).filter (setting.Shows (isVerbose arguments))).map Log.Event.line := by
  rw [log_run, chooseFilter, Log.Setting.filter_eq, Log.Setting.lines_filter]

/-- A quieter setting shows a part of what another one shows, in the same order. -/
theorem log_sublist {arguments : List String} {setting other : Log.Setting}
    (h : Log.Setting.IsQuieter (isVerbose arguments) setting other) :
    (run setting.text? arguments).log.Sublist (run other.text? arguments).log := by
  rw [log_run_setting, log_run_setting]
  apply List.Sublist.map
  apply List.monotone_filter_right
  intro e he
  rw [decide_eq_true_iff] at he ⊢
  exact he.mono h

/-! ## The log as lines -/

/-- Arguments in one line leave events in one line. -/
theorem inOneLine_ending_of_mem_emitted {arguments : List String}
    (h : ∀ a ∈ arguments, InOneLine a.toList) :
    ∀ e ∈ emitted arguments, InOneLine e.ending.toList := by
  intro e he
  unfold emitted at he
  split at he
  · exact Log.inOneLine_ending_of_mem_observedParse he
  · next s bindings verbose hrequest =>
    obtain ⟨hs, hbindings⟩ := Request.takenFrom_of_ofArguments hrequest
    have hp := Params.isInOneLine_ofList_entries fun b hb => h _ (hbindings b hb)
    split at he
    · exact Log.inOneLine_ending_of_mem_observedBuild (h s hs) hp he
    · cases he
  · cases he

theorem transcript_eq_iff (setting : Log.Setting) (arguments : List String) :
    (run setting.text? arguments).transcript =
        ⟨(run setting.text? arguments).log, (run setting.text? arguments).errors⟩ ↔
      ∀ e ∈ emitted arguments, setting.Shows (isVerbose arguments) e →
        Log.Transcript.IsLine e.ending := by
  rw [transcript_run_iff, log_run_setting, List.forall_mem_map]
  simp only [List.mem_filter, decide_eq_true_iff, and_imp, Log.Event.isLine_line_iff]

theorem transcript_eq_of_inOneLine {arguments : List String}
    (h : ∀ a ∈ arguments, InOneLine a.toList) (asked : Option String) :
    (run asked arguments).transcript =
      ⟨(run asked arguments).log, (run asked arguments).errors⟩ := by
  rw [transcript_run_iff, log_run]
  intro entry hentry
  obtain ⟨e, he, rfl⟩ := List.mem_map.1 hentry
  have hending := inOneLine_ending_of_mem_emitted h e (List.mem_filter.1 he).1
  rw [Log.Event.isLine_line_iff]
  exact ⟨hending.1, fun hlast => hending.2 (List.mem_of_getLast? hlast)⟩

/-! ## The log that nobody asks for -/

theorem exists_failed_mem_emitted_iff {arguments : List String} :
    (∃ source error, Log.Event.failed source error ∈ emitted arguments) ↔
      ∃ s bindings verbose e,
        Request.ofArguments arguments = .ok (.run s (.build bindings) verbose) ∧
        Request.Fails (.run s (.build bindings) verbose) e ∧
        (e.code = .missingParam ∨ e.code = .unknownParam) := by
  constructor
  · intro hfailed
    unfold emitted at hfailed
    split at hfailed
    · rename_i s _ _
      unfold Log.observedParse at hfailed
      cases hparse : Template.parse s <;> simp [hparse] at hfailed
    · split at hfailed
      · rename_i hrequest hkeys
        obtain ⟨e, he, hcode⟩ := Log.exists_failed_mem_iff.1 hfailed
        exact ⟨_, _, _, e, hrequest, .build hkeys he, hcode⟩
      · simp at hfailed
    · simp at hfailed
  · rintro ⟨s, bindings, verbose, e, hrequest, hfails, hcode⟩
    cases hfails with
    | build hkeys he =>
      rw [emitted_of_nodup hrequest hkeys]
      exact Log.exists_failed_mem_iff.2 ⟨e, he, hcode⟩

theorem log_run_none_of_not_verbose {arguments : List String} (h : isVerbose arguments = false) :
    (run none arguments).log = [] := by
  rw [log_run, h]
  exact Log.lines_standard _

/-- With more words, a log that nobody asked for has lines exactly if it has a failure to tell. -/
theorem log_run_none_of_verbose {arguments : List String} (h : isVerbose arguments = true) :
    (run none arguments).log ≠ [] ↔
      ∃ source error, Log.Event.failed source error ∈ emitted arguments := by
  have hlog := log_run_setting .unset arguments
  rw [h] at hlog
  change (run none arguments).log = _ at hlog
  rw [hlog, Ne, List.map_eq_nil_iff, List.filter_eq_nil_iff]
  simp only [decide_eq_true_iff, Log.Setting.shows_unset_iff]
  push Not
  constructor
  · rintro ⟨_, hmem, s, error, rfl⟩
    exact ⟨s, error, hmem⟩
  · rintro ⟨s, error, hmem⟩
    exact ⟨_, hmem, s, error, rfl⟩

/-! ## The law -/

theorem Ends.emitted_eq {arguments : List String} {code : Nat} {output errors : String}
    (h : Ends arguments code output errors) (hcode : code = 2) : emitted arguments = [] := by
  cases h with
  | misused hrequest => exact emitted_of_no_task (by simp [hrequest])
  | repeated hrequest hkey =>
    apply emitted_of_repeated hrequest
    intro hkeys
    rw [Binding.collect_eq_ok hkeys] at hkey
    cases hkey
  | helped | versioned | listed | built | failed => cases hcode

/-- A run that ends before it calls the library has no events. -/
theorem emitted_of_no_call {arguments : List String}
    (h : (run none arguments).status.code = 2 ∨ Request.ofArguments arguments = .ok .help ∨
      Request.ofArguments arguments = .ok .version) : emitted arguments = [] := by
  rcases h with hcode | hhelp | hversion
  · exact (ends_run none arguments).emitted_eq hcode
  · exact emitted_of_no_task (by simp [hhelp])
  · exact emitted_of_no_task (by simp [hversion])

/-- For all arguments, what is asked for about the log changes neither the status nor what is
written besides the log. The log is a choice of the events of the run, in their order: those that
are as severe as the level and come from the target. Each event is written as one entry, which
tells it from all other events. A reader of lines finds just these entries, and besides them what
is written without a log, exactly if no path and no message among them ends a line. That is so if
no argument does. There are no events if the library is not called, and to list the names has at
most one. A quieter level gives a part of the log. If nothing is asked for, the log is empty
without more words, and with more words it is not empty exactly if the params of a build do not
fit its template. -/
theorem a_log_is_a_choice_of_the_events (arguments : List String) :
    (∀ asked other : Option String,
      (run asked arguments).Writes (run other arguments).status.code
        (run other arguments).output (run other arguments).errors) ∧
    (∀ setting : Log.Setting,
      (run setting.text? arguments).log =
        ((emitted arguments).filter (setting.Shows (isVerbose arguments))).map Log.Event.line) ∧
    (∀ e : Log.Event, e.Written e.line) ∧
    (∀ (a b : Log.Event) (entry : String), a.Written entry → b.Written entry → a = b) ∧
    (∀ setting : Log.Setting,
      (run setting.text? arguments).transcript =
          ⟨(run setting.text? arguments).log, (run setting.text? arguments).errors⟩ ↔
        ∀ e ∈ emitted arguments, setting.Shows (isVerbose arguments) e →
          Log.Transcript.IsLine e.ending) ∧
    ((∀ a ∈ arguments, InOneLine a.toList) →
      ∀ asked : Option String, (run asked arguments).transcript =
        ⟨(run asked arguments).log, (run asked arguments).errors⟩) ∧
    ((run none arguments).status.code = 2 ∨ Request.ofArguments arguments = .ok .help ∨
      Request.ofArguments arguments = .ok .version → emitted arguments = []) ∧
    (∀ s verbose, Request.ofArguments arguments = .ok (.run s .names verbose) →
      (∀ t, Template.parse s = .ok t → emitted arguments = [.parsed s t.tokens.length]) ∧
      ∀ e, Template.parse s = .error e → emitted arguments = []) ∧
    (∀ setting other : Log.Setting, setting.IsQuieter (isVerbose arguments) other →
      (run setting.text? arguments).log.Sublist (run other.text? arguments).log) ∧
    (isVerbose arguments = false → (run none arguments).log = []) ∧
    (isVerbose arguments = true →
      ((run none arguments).log ≠ [] ↔ ∃ s bindings verbose e,
        Request.ofArguments arguments = .ok (.run s (.build bindings) verbose) ∧
        Request.Fails (.run s (.build bindings) verbose) e ∧
        (e.code = .missingParam ∨ e.code = .unknownParam))) := by
  refine ⟨?_, ?_, Log.Event.written_line, ?_, ?_, transcript_eq_of_inOneLine, emitted_of_no_call,
    ?_, ?_, log_run_none_of_not_verbose, ?_⟩
  · intro asked other
    exact (ends_run other arguments).writes asked
  · intro setting
    exact log_run_setting setting arguments
  · intro a b entry ha hb
    exact ha.inj hb
  · intro setting
    exact transcript_eq_iff setting arguments
  · intro s verbose hrequest
    rw [emitted_of_names hrequest]
    exact ⟨fun _ => Log.events_observedParse_of_ok, fun _ => Log.events_observedParse_of_error⟩
  · intro setting other hquiet
    exact log_sublist hquiet
  · intro hverbose
    exact (log_run_none_of_verbose hverbose).trans exists_failed_mem_emitted_iff

/-- The value holds a line feed, and so does the path. A reader of lines takes what follows it for
no part of the log, and finds more besides the log than without one. -/
theorem a_line_feed_in_a_value_breaks_its_line :
    (run (some "trace") ["/:a", "a=x\ny"]).transcript =
      ⟨["TRACE snowurl::parser: parsed template template=\"/:a\" tokens=2",
        "TRACE snowurl::builder: built url template=\"/:a\" url=/x"], "y\n"⟩ ∧
    (run (some "trace") ["/:a", "a=x\ny"]).transcript.lines ≠
      (emitted ["/:a", "a=x\ny"]).map Log.Event.line ∧
    (run (some "trace") ["/:a", "a=x\ny"]).transcript.rest ≠
      (run none ["/:a", "a=x\ny"]).transcript.rest := by
  decide +kernel

end PathTemplate.Command
