-- What arguments ask for. A binding that is written as a key, an equals sign and a
-- value is read back as it was, and bindings of different keys are collected into
-- params in any order. Behind a double dash, the first argument is the template and
-- the others are its bindings.
import Mathlib
import PathTemplate.Command.Request
import PathTemplate.Proofs.Entries
import PathTemplate.Proofs.Reading

namespace PathTemplate.Command

/-! ## Bindings -/

namespace Binding

/-- The key is not empty, and no equals sign stands in it. So it ends at the first equals
sign of the binding. -/
def WellFormed (b : Binding) : Prop := IsRun isKeyChar b.key.toList

instance : DecidablePred WellFormed := fun b =>
  inferInstanceAs (Decidable (IsRun isKeyChar b.key.toList))

theorem toList_text (b : Binding) : b.text.toList = b.key.toList ++ '=' :: b.value.toList := by
  simp [text]

/-- A binding is read as it was written. -/
theorem parse_text {b : Binding} (h : b.WellFormed) : parse b.text = .ok b := by
  have hstops : Stops isKeyChar ('=' :: b.value.toList) := by
    intro c hc
    cases hc
    rfl
  have htake := takeWhile_run h.all hstops
  have hdrop := dropWhile_run h.all hstops
  rw [parse, toList_text, hdrop]
  simp only [htake, if_neg h.ne_nil, String.ofList_toList]

theorem mapM_parse_text {bindings : List Binding} (h : ∀ b ∈ bindings, b.WellFormed) :
    (bindings.map text).mapM parse = .ok bindings := by
  induction bindings with
  | nil => rfl
  | cons b rest ih =>
    obtain ⟨hb, hrest⟩ := List.forall_mem_cons.1 h
    rw [List.map_cons, List.mapM_cons, parse_text hb, ih hrest]
    rfl

/-- A binding as an entry of params. Its value is a text. -/
def entry (b : Binding) : String × Value := (b.key, .string b.value)

theorem map_fst_entry (bindings : List Binding) :
    (bindings.map entry).map Prod.fst = bindings.map key := by
  rw [List.map_map]
  rfl

/-- Bindings of new and different keys are all added, and what comes behind them meets their
entries. -/
theorem collectInto_append {bindings : List Binding} (h : (bindings.map key).Nodup) (p : Params)
    (hnew : ∀ b ∈ bindings, b.key ∉ p.keys) (after : List Binding) :
    collectInto p (bindings ++ after) = collectInto (p.insertMany (bindings.map entry)) after := by
  induction bindings generalizing p with
  | nil => rfl
  | cons b rest ih =>
    obtain ⟨hb, hrest⟩ := List.nodup_cons.1 h
    obtain ⟨hbnew, hrestnew⟩ := List.forall_mem_cons.1 hnew
    have hcontains : p.contains b.key ≠ true := mt Params.contains_iff.1 hbnew
    have hstill : ∀ other ∈ rest, other.key ∉ (p.insert b.key (.string b.value)).keys := by
      intro other hother hmem
      rcases Params.mem_keys_insert.1 hmem with heq | hold
      · exact hb (heq ▸ List.mem_map_of_mem hother)
      · exact hrestnew other hother hold
    rw [List.cons_append, collectInto, if_neg hcontains, ih hrest _ hstill]
    rfl

theorem not_mem_keys_empty (name : String) : name ∉ Params.empty.keys := by
  simp [Params.keys, Params.empty]

theorem collect_eq_ok {bindings : List Binding} (h : (bindings.map key).Nodup) :
    collect bindings = .ok (.ofList (bindings.map entry)) := by
  have hadded := collectInto_append h .empty (fun b _ => not_mem_keys_empty b.key) []
  rwa [List.append_nil] at hadded

end Binding

/-! ## Reading the words -/

namespace Reading

variable {r : Reading} {template : String}

theorem positional_of_template (h : r.template = some template) (text : String) :
    r.positional text = { r with pending := r.pending ++ [text] } := by
  rw [positional, h]

/-- Once there is a template, the positional arguments wait to be checked as bindings. -/
theorem read_positionals (h : r.template = some template) (texts : List String)
    (rest : List Word) :
    r.read (texts.map .positional ++ rest) =
      { r with pending := r.pending ++ texts }.read rest := by
  induction texts generalizing r with
  | nil => simp
  | cons text texts ih =>
    rw [List.map_cons, List.cons_append, read, positional_of_template h]
    have hnext := ih (r := { r with pending := r.pending ++ [text] }) h
    rw [hnext, List.append_assoc]
    rfl

/-- At the end the arguments that wait are checked, and the bindings are complete. -/
theorem finish_of_bindings {bindings : List Binding} (htemplate : r.template = some template)
    (hlist : r.list = none) (hpending : r.pending.mapM Binding.parse = .ok bindings) :
    r.finish = .ok (.run template (.build (r.bindings ++ bindings)) r.verbose) := by
  unfold finish settle
  simp only [hpending, htemplate, hlist]

end Reading

/-! ## Command lines -/

/-- The arguments that ask for the names of a template. -/
def listArguments (template : String) : List String := ["--list", "--", template]

/-- The arguments that ask for the path of a template with bindings. Behind the double dash
no argument is a flag, whatever it looks like. -/
def buildArguments (template : String) (bindings : List Binding) : List String :=
  "--" :: template :: bindings.map Binding.text

namespace Request

theorem ofArguments_list (template : String) :
    ofArguments (listArguments template) = .ok (.run template .names false) := by
  have hlist : Word.ofArgument "--list" = [.flag .list] := by decide
  have hwords : Word.ofArguments (listArguments template) =
      [.flag .list, .positional template] := by
    simp [listArguments, Word.ofArguments, hlist]
  rw [ofArguments, hwords]
  rfl

theorem ofArguments_build {bindings : List Binding} (h : ∀ b ∈ bindings, b.WellFormed)
    (template : String) :
    ofArguments (buildArguments template bindings) = .ok (.run template (.build bindings) false) := by
  have hwords : Word.ofArguments (buildArguments template bindings) =
      .positional template :: ((bindings.map Binding.text).map .positional ++ []) := by
    simp [buildArguments, Word.ofArguments]
  have htemplate : (Reading.start.positional template).template = some template := rfl
  have hread := Reading.read_positionals htemplate (bindings.map Binding.text) []
  rw [ofArguments, hwords, Reading.read, hread]
  exact Reading.finish_of_bindings rfl rfl (Binding.mapM_parse_text h)

end Request

end PathTemplate.Command
