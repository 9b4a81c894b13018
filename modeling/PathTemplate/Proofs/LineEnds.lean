-- Where the ends of lines in a log come from. What a command line asks for is taken from its
-- arguments as it is, and so are the path and the names in errors. The command adds nothing that
-- ends a line. So if each argument is in one line, each line of the log is.
import Mathlib
import PathTemplate.Proofs.BindingTexts
import PathTemplate.Proofs.Canonical
import PathTemplate.Proofs.EventLines

namespace PathTemplate

open Text (InOneLine inOneLine_append)

namespace Command

/-! ## What arguments are read as -/

theorem Binding.map_text_of_mapM_parse {texts : List String} {bindings : List Binding}
    (h : texts.mapM parse = .ok bindings) : bindings.map text = texts := by
  induction texts generalizing bindings with
  | nil =>
    cases h
    rfl
  | cons x texts ih =>
    rw [List.mapM_cons] at h
    cases hx : parse x with
    | error e =>
      rw [hx] at h
      cases h
    | ok b =>
      cases hrest : texts.mapM parse with
      | error e =>
        rw [hx, hrest] at h
        cases h
      | ok rest =>
        rw [hx, hrest] at h
        cases h
        rw [List.map_cons, ih hrest]
        cases parses_iff.2 hx with
        | binding _ htext => rw [← htext]

theorem Word.mem_of_positional_mem_ofArguments {arguments : List String} {text : String}
    (h : .positional text ∈ ofArguments arguments) : text ∈ arguments := by
  induction arguments with
  | nil => cases h
  | cons argument rest ih =>
    unfold ofArguments at h
    split at h
    · simpa using Or.inr h
    · rcases List.mem_append.1 h with hword | hrest
      · unfold ofArgument at hword
        split at hword
        · next name _ =>
          unfold ofLong at hword
          simp only [List.mem_singleton] at hword
          split at hword <;> cases hword
        · obtain ⟨c, -, hletter⟩ := List.mem_map.1 hword
          unfold ofLetter at hletter
          split at hletter <;> cases hletter
        · cases List.mem_singleton.1 hword
          exact List.mem_cons_self
      · exact List.mem_cons_of_mem _ (ih hrest)

/-- The template and the bindings of a request are all from a list of texts. -/
def Request.TakenFrom (texts : List String) : Request → Prop
  | .run s .names _ => s ∈ texts
  | .run s (.build bindings) _ => s ∈ texts ∧ ∀ b ∈ bindings, b.text ∈ texts
  | _ => True

namespace Reading

/-- All that the reading holds is from a list of texts. -/
structure TakenFrom (texts : List String) (r : Reading) : Prop where
  template : ∀ s, r.template = some s → s ∈ texts
  bindings : ∀ b ∈ r.bindings, b.text ∈ texts
  pending : ∀ text ∈ r.pending, text ∈ texts

variable {texts : List String} {r next : Reading}

theorem takenFrom_start (texts : List String) : start.TakenFrom texts := by
  constructor <;> simp [start]

theorem TakenFrom.positional (h : r.TakenFrom texts) {text : String} (htext : text ∈ texts) :
    (r.positional text).TakenFrom texts := by
  unfold Reading.positional
  split
  · refine ⟨?_, h.bindings, h.pending⟩
    intro s hs
    cases hs
    exact htext
  · refine ⟨h.template, h.bindings, ?_⟩
    intro other hother
    rcases List.mem_append.1 hother with hold | hnew
    · exact h.pending other hold
    · rwa [List.mem_singleton.1 hnew]

theorem TakenFrom.settle (h : r.TakenFrom texts) (hsettle : r.settle = .ok next) :
    next.TakenFrom texts := by
  unfold Reading.settle at hsettle
  split at hsettle
  · next bindings hparse =>
    cases hsettle
    refine ⟨h.template, ?_, by simp⟩
    intro b hb
    rcases List.mem_append.1 hb with hold | hnew
    · exact h.bindings b hold
    · apply h.pending
      rw [← Binding.map_text_of_mapM_parse hparse]
      exact List.mem_map_of_mem hnew
  · cases hsettle

theorem TakenFrom.finish (h : r.TakenFrom texts) {request : Request}
    (hfinish : r.finish = .ok request) : request.TakenFrom texts := by
  unfold Reading.finish at hfinish
  split at hfinish
  · cases hfinish
  · next settled hsettle =>
    have hsettled := h.settle hsettle
    split at hfinish
    · cases hfinish
    · cases hfinish
    · next htemplate =>
      cases hfinish
      exact hsettled.template _ htemplate
    · next htemplate =>
      cases hfinish
      exact ⟨hsettled.template _ htemplate, hsettled.bindings⟩

/-- Each word takes at most its own text into the reading. -/
theorem TakenFrom.read {words : List Word} (h : r.TakenFrom texts)
    (hwords : ∀ text, .positional text ∈ words → text ∈ texts) {request : Request}
    (hread : r.read words = .ok request) : request.TakenFrom texts := by
  induction words generalizing r with
  | nil => exact h.finish hread
  | cons word rest ih =>
    have hrest : ∀ text, .positional text ∈ rest → text ∈ texts :=
      fun text htext => hwords text (List.mem_cons_of_mem _ htext)
    cases word with
    | positional text => exact ih (h.positional (hwords text List.mem_cons_self)) hrest hread
    | unknown text => cases hread
    | valued f value => cases hread
    | flag f =>
      rw [Reading.read] at hread
      split at hread
      · cases hread
      · next settled hsettle =>
        obtain ⟨htemplate, hbindings, hpending⟩ := h.settle hsettle
        cases f with
        | help | version =>
          cases hread
          trivial
        | list =>
          simp only at hread
          split at hread
          · cases hread
          · have hnext : TakenFrom texts { settled with list := some !settled.bindings.isEmpty } :=
              ⟨htemplate, hbindings, hpending⟩
            exact ih hnext hrest hread
        | verbose =>
          simp only at hread
          split at hread
          · cases hread
          · have hnext : TakenFrom texts { settled with verbose := true } :=
              ⟨htemplate, hbindings, hpending⟩
            exact ih hnext hrest hread

end Reading

theorem Request.takenFrom_of_ofArguments {arguments : List String} {request : Request}
    (h : ofArguments arguments = .ok request) : request.TakenFrom arguments :=
  (Reading.takenFrom_start arguments).read
    (fun _ htext => Word.mem_of_positional_mem_ofArguments htext) h

end Command

/-! ## Paths and errors in one line -/

theorem Text.inOneLine_repr (n : Nat) : InOneLine (Nat.repr n).toList := by
  have hdigit {c : Char} (hc : c ∈ (Nat.repr n).toList) : c.isDigit = true := by
    rw [Nat.repr_eq_ofList_toDigits, String.toList_ofList] at hc
    exact Nat.isDigit_of_mem_toDigits (by decide) (by decide) hc
  exact ⟨fun h => absurd (hdigit h) (by decide), fun h => absurd (hdigit h) (by decide)⟩

theorem Template.inOneLine_written {s : String} {t : Template} (h : Template.parse s = .ok t)
    (hs : InOneLine s.toList) {token : Token} (htoken : token ∈ t.tokens) :
    InOneLine token.written := by
  rw [← Template.render_of_parse h, Token.toList_render] at hs
  exact hs.of_subset fun c hc => List.mem_flatMap.2 ⟨token, htoken, hc⟩

namespace Params

/-- All keys and the texts of all values are in one line. -/
structure IsInOneLine (p : Params) : Prop where
  keys : ∀ key ∈ p.keys, InOneLine key.toList
  values : ∀ key value, p.get? key = some value → InOneLine value.text.toList

theorem IsInOneLine.pathFor {p : Params} (h : p.IsInOneLine) {tokens : List Token}
    (htokens : ∀ token ∈ tokens, InOneLine token.written) : InOneLine (p.pathFor tokens).toList := by
  have htoken : ∀ token ∈ tokens, InOneLine (p.textFor token).toList := by
    intro token hmem
    cases token with
    | literal text => exact htokens _ hmem
    | placeholder name =>
      simp only [textFor]
      cases hget : p.get? name with
      | none => exact (show InOneLine [] by decide)
      | some value => exact h.values name value hget
  rw [Params.pathFor, String.toList_join, List.flatMap_map]
  exact Text.inOneLine_flatMap htoken

/-- Bindings in one line make params in one line. -/
theorem isInOneLine_ofList_entries {bindings : List Command.Binding}
    (h : ∀ b ∈ bindings, InOneLine b.text.toList) :
    (ofList (bindings.map Command.Binding.entry)).IsInOneLine := by
  have hparts : ∀ b ∈ bindings, InOneLine b.key.toList ∧ InOneLine b.value.toList := by
    intro b hb
    have htext := h b hb
    rw [Command.Binding.toList_text, inOneLine_append] at htext
    exact ⟨htext.1, htext.2.of_subset (List.subset_cons_self _ _)⟩
  constructor
  · intro key hkey
    rw [mem_keys_ofList, Command.Binding.map_fst_entry] at hkey
    obtain ⟨b, hb, rfl⟩ := List.mem_map.1 hkey
    exact (hparts b hb).1
  · intro key value hvalue
    rw [get?_ofList] at hvalue
    obtain ⟨before, after, hentries, -⟩ := List.lookup_eq_some_iff.1 hvalue
    have hmem : (key, value) ∈ bindings.map Command.Binding.entry := by
      rw [← List.mem_reverse, hentries]
      exact List.mem_append_right before List.mem_cons_self
    obtain ⟨b, hb, hentry⟩ := List.mem_map.1 hmem
    cases hentry
    exact (hparts b hb).2

end Params

/-- A message ends a line only where its name does. -/
theorem Error.inOneLine_message {e : Error}
    (h : ∀ name, e = .missingParam name ∨ e = .unknownParam name → InOneLine name.toList) :
    InOneLine e.message.toList := by
  have hframed {first name last : String} (hfirst : InOneLine first.toList)
      (hname : InOneLine name.toList) (hlast : InOneLine last.toList) :
      InOneLine (first ++ name ++ last).toList := by
    rw [String.toList_append, String.toList_append]
    exact inOneLine_append.2 ⟨inOneLine_append.2 ⟨hfirst, hname⟩, hlast⟩
  cases e with
  | invalidDeclaration position =>
    exact hframed (by decide) (Text.inOneLine_repr position) (by decide)
  | missingParam name => exact hframed (by decide) (h name (.inl rfl)) (by decide)
  | unknownParam name => exact hframed (by decide) (h name (.inr rfl)) (by decide)

namespace Template

variable {s : String} {t : Template} {p : Params}

theorem inOneLine_of_build_eq_ok (h : parse s = .ok t) (hs : InOneLine s.toList)
    (hp : p.IsInOneLine) {path : String} (hbuild : t.build p = .ok path) :
    InOneLine path.toList := by
  obtain ⟨-, -, rfl⟩ := build_eq_ok_iff.1 hbuild
  exact hp.pathFor fun token htoken => inOneLine_written h hs htoken

theorem inOneLine_of_build_eq_error (h : parse s = .ok t) (hs : InOneLine s.toList)
    (hp : p.IsInOneLine) {e : Error} (hbuild : t.build p = .error e) :
    InOneLine e.message.toList := by
  apply Error.inOneLine_message
  rintro name (rfl | rfl)
  · obtain ⟨before, after, htokens, -⟩ := build_eq_missing_iff.1 hbuild
    have hmem : .placeholder name ∈ t.tokens := by
      rw [htokens]
      exact List.mem_append_right before List.mem_cons_self
    exact (inOneLine_written h hs hmem).of_subset (List.subset_cons_self ':' name.toList)
  · exact hp.keys name (build_eq_unknown_iff.1 hbuild).2.mem

end Template

namespace Log

theorem inOneLine_ending_of_mem_observedParse {s : String} {e : Event}
    (he : e ∈ (observedParse s).events) : InOneLine e.ending.toList := by
  cases hparse : Template.parse s with
  | error e =>
    rw [events_observedParse_of_error hparse] at he
    cases he
  | ok t =>
    rw [events_observedParse_of_ok hparse] at he
    cases List.mem_singleton.1 he
    exact Text.inOneLine_repr _

/-- A build of a template in one line, with params in one line, leaves events in one line. -/
theorem inOneLine_ending_of_mem_observedBuild {s : String} {p : Params} (hs : InOneLine s.toList)
    (hp : p.IsInOneLine) {e : Event} (he : e ∈ (observedBuild s p).events) :
    InOneLine e.ending.toList := by
  cases hparse : Template.parse s with
  | error e =>
    rw [events_observedBuild_of_error hparse] at he
    cases he
  | ok t =>
    rw [events_observedBuild_of_ok hparse, build_of_parse_eq_ok hparse] at he
    rcases List.mem_cons.1 he with rfl | he
    · exact Text.inOneLine_repr _
    · cases List.mem_singleton.1 he
      cases hbuild : t.build p with
      | ok path => exact Template.inOneLine_of_build_eq_ok hparse hs hp hbuild
      | error error => exact Template.inOneLine_of_build_eq_error hparse hs hp hbuild

end Log

end PathTemplate
