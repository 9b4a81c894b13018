-- Where the flags stand does not matter. A reading remembers which flags and which
-- positional arguments there were, and forgets in which order flags and arguments took
-- turns. So each placement of the flags asks for the same.
import Mathlib
import PathTemplate.Command.Run
import PathTemplate.Proofs.Arguments

namespace PathTemplate.Command

/-! ## Placements -/

/-- Two lists that take turns in a third one, each in its own order. -/
inductive Interleaved {α : Type} : List α → List α → List α → Prop
  | nil : Interleaved [] [] []
  | left {a as bs cs} : Interleaved as bs cs → Interleaved (a :: as) bs (a :: cs)
  | right {b as bs cs} : Interleaved as bs cs → Interleaved as (b :: bs) (b :: cs)

theorem interleaved_append {α : Type} (as bs : List α) : Interleaved as bs (as ++ bs) := by
  induction as with
  | nil =>
    induction bs with
    | nil => exact .nil
    | cons b bs ih => exact .right ih
  | cons a as ih => exact .left ih

/-- Each of the two flags at most once. One of them can be written in two ways. -/
structure IsFlagSet (flags : List String) : Prop where
  known : ∀ text ∈ flags, text = "-v" ∨ text = "--verbose" ∨ text = "--list"
  nodup : flags.Nodup
  oneVerbose : "-v" ∈ flags → "--verbose" ∉ flags

theorem IsFlagSet.perm {flags others : List String} (h : IsFlagSet flags)
    (hperm : flags.Perm others) : IsFlagSet others := by
  constructor
  · intro text htext
    exact h.known text (hperm.mem_iff.2 htext)
  · exact hperm.nodup_iff.1 h.nodup
  · intro hshort hlong
    exact h.oneVerbose (hperm.mem_iff.2 hshort) (hperm.mem_iff.2 hlong)

/-- An argument that could be taken for a flag. -/
def StartsWithDash (text : String) : Prop := text.toList.head? = some '-'

instance : DecidablePred StartsWithDash := fun text =>
  inferInstanceAs (Decidable (text.toList.head? = some '-'))

/-- What flags, a template and its bindings ask for. -/
def Request.ofFlags (flags : List String) (template : String) (bindings : List Binding) : Request :=
  .run template (if "--list" ∈ flags then .names else .build bindings)
    (decide ("-v" ∈ flags ∨ "--verbose" ∈ flags))

/-! ## Words -/

namespace Word

variable {text : String}

theorem ofArguments_cons_flag {f : Flag} (htext : text ≠ "--") (h : ofArgument text = [.flag f])
    (rest : List String) : ofArguments (text :: rest) = .flag f :: ofArguments rest := by
  rw [ofArguments, if_neg htext, h]
  rfl

theorem ofArguments_cons_positional (h : ¬ StartsWithDash text) (rest : List String) :
    ofArguments (text :: rest) = .positional text :: ofArguments rest := by
  have htext : text ≠ "--" := by
    rintro rfl
    exact h rfl
  have hword : ofArgument text = [.positional text] := by
    unfold ofArgument
    split
    · next heq => exact absurd (by rw [StartsWithDash, heq]; rfl) h
    · next heq => exact absurd (by rw [StartsWithDash, heq]; rfl) h
    · rfl
  rw [ofArguments, if_neg htext, hword]
  rfl

theorem ofArguments_positionals {texts : List String} (h : ∀ text ∈ texts, ¬ StartsWithDash text) :
    ofArguments texts = texts.map .positional := by
  induction texts with
  | nil => rfl
  | cons text texts ih =>
    obtain ⟨htext, htexts⟩ := List.forall_mem_cons.1 h
    rw [ofArguments_cons_positional htext, ih htexts, List.map_cons]

end Word

/-! ## What a reading remembers -/

namespace Reading

/-- The reading has seen these flags and these positional arguments. The first of the arguments
is the template, and the others are bindings, whether they were checked or not. -/
structure Holds (r : Reading) (flags texts : List String) : Prop where
  template_eq : r.template = texts.head?
  exists_pending : ∃ pending, r.pending.mapM Binding.parse = .ok pending ∧
    texts.tail.mapM Binding.parse = .ok (r.bindings ++ pending)
  list_iff : r.list.isSome = true ↔ "--list" ∈ flags
  verbose_iff : r.verbose = true ↔ "-v" ∈ flags ∨ "--verbose" ∈ flags

theorem holds_start : start.Holds [] [] where
  template_eq := rfl
  exists_pending := ⟨[], rfl, rfl⟩
  list_iff := by simp [start]
  verbose_iff := by simp [start]

variable {r : Reading} {flags texts : List String} {text : String}

theorem mapM_parse_append {as bs : List String} {xs ys : List Binding}
    (ha : as.mapM Binding.parse = .ok xs) (hb : bs.mapM Binding.parse = .ok ys) :
    (as ++ bs).mapM Binding.parse = .ok (xs ++ ys) := by
  rw [List.mapM_append, ha, hb]
  rfl

/-- One more positional argument. Behind the template it has to be a binding. -/
theorem Holds.positional (h : r.Holds flags texts)
    (htext : texts ≠ [] → ∃ b, Binding.parse text = .ok b) :
    (r.positional text).Holds flags (texts ++ [text]) := by
  obtain ⟨htemplate, ⟨pending, hpending, hchecked⟩, hlist, hverbose⟩ := h
  cases texts with
  | nil =>
    have hr : r.positional text = { r with template := some text } := by
      rw [Reading.positional, htemplate]
      rfl
    rw [hr]
    exact ⟨rfl, ⟨pending, hpending, hchecked⟩, hlist, hverbose⟩
  | cons template texts =>
    obtain ⟨b, hb⟩ := htext (List.cons_ne_nil _ _)
    have hone : [text].mapM Binding.parse = .ok [b] := by
      rw [List.mapM_cons, hb]
      rfl
    rw [positional_of_template htemplate]
    refine ⟨htemplate, ⟨pending ++ [b], mapM_parse_append hpending hone, ?_⟩, hlist, hverbose⟩
    have hall := mapM_parse_append hchecked hone
    rwa [List.append_assoc] at hall

/-- A flag makes the reading check the bindings before it, and they stay. -/
theorem Holds.settle (h : r.Holds flags texts) :
    ∃ next : Reading, r.settle = .ok next ∧ next.Holds flags texts ∧
      texts.tail.mapM Binding.parse = .ok next.bindings := by
  obtain ⟨htemplate, ⟨pending, hpending, hchecked⟩, hlist, hverbose⟩ := h
  refine ⟨{ r with bindings := r.bindings ++ pending, pending := [] }, ?_, ?_, hchecked⟩
  · rw [Reading.settle, hpending]
  · exact ⟨htemplate, ⟨[], rfl, by simpa using hchecked⟩, hlist, hverbose⟩

theorem Holds.read_list (h : r.Holds flags texts) (hnew : "--list" ∉ flags) (rest : List Word) :
    ∃ next : Reading, r.read (.flag .list :: rest) = next.read rest ∧
      next.Holds ("--list" :: flags) texts := by
  obtain ⟨settled, hsettled, ⟨htemplate, hpending, hlist, hverbose⟩, -⟩ := h.settle
  have hnone : ¬ settled.list.isSome = true := mt hlist.1 hnew
  refine ⟨{ settled with list := some !settled.bindings.isEmpty }, ?_, ?_⟩
  · rw [Reading.read, hsettled]
    simp only [if_neg hnone]
  · exact ⟨htemplate, hpending, by simp, by simpa using hverbose⟩

theorem Holds.read_verbose (h : r.Holds flags texts) (htext : text = "-v" ∨ text = "--verbose")
    (hnew : "-v" ∉ flags ∧ "--verbose" ∉ flags) (rest : List Word) :
    ∃ next : Reading, r.read (.flag .verbose :: rest) = next.read rest ∧
      next.Holds (text :: flags) texts := by
  obtain ⟨settled, hsettled, ⟨htemplate, hpending, hlist, hverbose⟩, -⟩ := h.settle
  have hnone : ¬ settled.verbose = true := mt hverbose.1 (not_or.2 hnew)
  refine ⟨{ settled with verbose := true }, ?_, ?_⟩
  · rw [Reading.read, hsettled]
    simp only [if_neg hnone]
  · refine ⟨htemplate, hpending, ?_, ?_⟩
    · rw [hlist]
      rcases htext with rfl | rfl <;> simp
    · rcases htext with rfl | rfl <;> simp

theorem Holds.perm {others : List String} (h : r.Holds flags texts) (hperm : flags.Perm others) :
    r.Holds others texts := by
  obtain ⟨htemplate, hpending, hlist, hverbose⟩ := h
  refine ⟨htemplate, hpending, ?_, ?_⟩
  · rw [hlist, hperm.mem_iff]
  · rw [hverbose, hperm.mem_iff, hperm.mem_iff]

theorem Holds.finish {template : String} {bindings : List Binding}
    (h : r.Holds flags (template :: bindings.map Binding.text))
    (hwell : ∀ b ∈ bindings, b.WellFormed) (hlist : "--list" ∈ flags → bindings = []) :
    r.finish = .ok (.ofFlags flags template bindings) := by
  obtain ⟨settled, hsettled, hholds, hchecked⟩ := h.settle
  have hbindings : settled.bindings = bindings := by
    rw [List.tail_cons, Binding.mapM_parse_text hwell] at hchecked
    exact (Except.ok.inj hchecked).symm
  have htemplate : settled.template = some template := hholds.template_eq
  have hverbose : settled.verbose = decide ("-v" ∈ flags ∨ "--verbose" ∈ flags) := by
    rw [Bool.eq_iff_iff, hholds.verbose_iff, decide_eq_true_eq]
  unfold Reading.finish Request.ofFlags
  rw [hsettled, ← hverbose]
  by_cases hgiven : "--list" ∈ flags
  · have hnone := hlist hgiven
    obtain ⟨bindingsFirst, hflag⟩ := Option.isSome_iff_exists.1 (hholds.list_iff.2 hgiven)
    subst hnone
    simp only [hflag, hbindings, htemplate, if_pos hgiven]
  · have hflag : settled.list = none := by
      simpa using mt hholds.list_iff.1 hgiven
    simp only [hflag, hbindings, htemplate, if_neg hgiven]

/-! ## Readings of placements -/

/-- One more flag, which was not given in either of its forms. -/
theorem Holds.read_flag {seen before : List String} (h : r.Holds seen before)
    (hset : IsFlagSet (text :: flags ++ seen)) (arguments : List String) :
    ∃ next : Reading,
      r.read (Word.ofArguments (text :: arguments)) = next.read (Word.ofArguments arguments) ∧
        next.Holds (text :: seen) before := by
  have hmem : text ∈ text :: flags ++ seen := List.mem_cons_self
  have hnew : text ∉ seen := by
    intro hseen
    exact (List.nodup_cons.1 hset.nodup).1 (List.mem_append_right flags hseen)
  rcases hset.known text hmem with rfl | rfl | rfl
  · have hother : "--verbose" ∉ seen := by
      intro hlong
      exact hset.oneVerbose hmem (List.mem_append_right _ hlong)
    rw [Word.ofArguments_cons_flag (by decide) rfl]
    exact h.read_verbose (Or.inl rfl) ⟨hnew, hother⟩ _
  · have hother : "-v" ∉ seen := by
      intro hshort
      exact hset.oneVerbose (List.mem_append_right _ hshort) hmem
    rw [Word.ofArguments_cons_flag (by decide) rfl]
    exact h.read_verbose (Or.inr rfl) ⟨hother, hnew⟩ _
  · rw [Word.ofArguments_cons_flag (by decide) rfl]
    exact h.read_list hnew _

/-- One more argument of a template and its bindings. -/
theorem Holds.read_argument {seen before texts : List String} {template : String}
    {bindings : List Binding} (h : r.Holds seen before)
    (htexts : before ++ text :: texts = template :: bindings.map Binding.text)
    (hdash : ¬ StartsWithDash text) (hwell : ∀ b ∈ bindings, b.WellFormed)
    (arguments : List String) :
    ∃ next : Reading,
      r.read (Word.ofArguments (text :: arguments)) = next.read (Word.ofArguments arguments) ∧
        next.Holds seen (before ++ [text]) := by
  have hparses : before ≠ [] → ∃ b, Binding.parse text = .ok b := by
    intro hbefore
    obtain ⟨first, more, rfl⟩ := List.exists_cons_of_ne_nil hbefore
    have htail : more ++ text :: texts = bindings.map Binding.text := (List.cons.inj htexts).2
    have hmem : text ∈ bindings.map Binding.text := by
      rw [← htail]
      simp
    obtain ⟨b, hb, rfl⟩ := List.mem_map.1 hmem
    exact ⟨b, Binding.parse_text (hwell b hb)⟩
  refine ⟨r.positional text, ?_, h.positional hparses⟩
  rw [Word.ofArguments_cons_positional hdash, Reading.read]

/-- Whatever the reading holds, it goes on to hold all flags and all arguments. -/
theorem Holds.read_interleaved {all flags texts before seen arguments : List String}
    {template : String} {bindings : List Binding} {r : Reading}
    (h : Interleaved flags texts arguments) (hr : r.Holds seen before)
    (hall : IsFlagSet all) (hflags : all.Perm (flags ++ seen))
    (htexts : before ++ texts = template :: bindings.map Binding.text)
    (hdash : ∀ text ∈ texts, ¬ StartsWithDash text) (hwell : ∀ b ∈ bindings, b.WellFormed)
    (hlist : "--list" ∈ all → bindings = []) :
    r.read (Word.ofArguments arguments) = .ok (.ofFlags all template bindings) := by
  induction h generalizing r before seen with
  | nil =>
    rw [List.append_nil] at htexts
    rw [List.nil_append] at hflags
    rw [htexts] at hr
    exact (hr.perm hflags.symm).finish hwell hlist
  | @left text flags texts arguments _ ih =>
    have hnext : all.Perm (flags ++ text :: seen) := hflags.trans List.perm_middle.symm
    obtain ⟨next, hread, hholds⟩ := hr.read_flag (hall.perm hflags) arguments
    rw [hread]
    exact ih hholds hnext htexts hdash
  | @right text flags texts arguments _ ih =>
    obtain ⟨htext, hrest⟩ := List.forall_mem_cons.1 hdash
    obtain ⟨next, hread, hholds⟩ := hr.read_argument htexts htext hwell arguments
    rw [hread]
    apply ih hholds hflags _ hrest
    rw [List.append_assoc, List.singleton_append, htexts]

end Reading

/-! ## The law -/

section Placements

variable {flags placed arguments : List String} {template : String} {bindings : List Binding}

/-- A placement of the flags asks for what the flags and the bindings ask for. -/
theorem Request.ofArguments_interleaved (hflags : IsFlagSet flags)
    (hwell : ∀ b ∈ bindings, b.WellFormed)
    (hdash : ∀ text ∈ template :: bindings.map Binding.text, ¬ StartsWithDash text)
    (hlist : "--list" ∈ flags → bindings = []) (horder : flags.Perm placed)
    (hplaced : Interleaved placed (template :: bindings.map Binding.text) arguments) :
    Request.ofArguments arguments = .ok (.ofFlags flags template bindings) := by
  apply Reading.holds_start.read_interleaved hplaced hflags _ rfl hdash hwell hlist
  rwa [List.append_nil]

/-- Behind flags, a double dash changes nothing if no argument looks like a flag. -/
theorem Word.ofArguments_append_doubleDash {texts : List String} (hflags : "--" ∉ flags)
    (hdash : ∀ text ∈ texts, ¬ StartsWithDash text) :
    Word.ofArguments (flags ++ "--" :: texts) = Word.ofArguments (flags ++ texts) := by
  induction flags with
  | nil => rw [List.nil_append, List.nil_append, Word.ofArguments_positionals hdash]; rfl
  | cons flag flags ih =>
    obtain ⟨hflag, hrest⟩ := not_or.1 (mt List.mem_cons.2 hflags)
    rw [List.cons_append, List.cons_append, Word.ofArguments, Word.ofArguments, ih hrest,
      if_neg (Ne.symm hflag), if_neg (Ne.symm hflag)]

/-- A template and its bindings are given, none of which begins with a dash, and each flag at
most once, where the flag to list the names comes without bindings. Wherever the flags stand, and
in whatever order, the run ends and writes what it does with all flags in front. A double dash
behind the flags changes nothing either. -/
theorem flags_may_stand_anywhere (asked : Option String) (hflags : IsFlagSet flags)
    (hwell : ∀ b ∈ bindings, b.WellFormed)
    (hdash : ∀ text ∈ template :: bindings.map Binding.text, ¬ StartsWithDash text)
    (hlist : "--list" ∈ flags → bindings = []) (horder : flags.Perm placed)
    (hplaced : Interleaved placed (template :: bindings.map Binding.text) arguments) :
    run asked arguments = run asked (flags ++ template :: bindings.map Binding.text) ∧
    run asked (flags ++ "--" :: template :: bindings.map Binding.text) =
      run asked (flags ++ template :: bindings.map Binding.text) := by
  have hfirst := interleaved_append flags (template :: bindings.map Binding.text)
  have hrequest := Request.ofArguments_interleaved hflags hwell hdash hlist horder hplaced
  have hrequestFirst :=
    Request.ofArguments_interleaved hflags hwell hdash hlist (List.Perm.refl flags) hfirst
  have hdouble : "--" ∉ flags := by
    intro hmem
    rcases hflags.known _ hmem with h | h | h <;> exact absurd h (by decide)
  constructor
  · unfold run
    rw [hrequest, hrequestFirst]
  · unfold run Request.ofArguments
    rw [Word.ofArguments_append_doubleDash hdouble hdash]

end Placements

/-- The flag interrupts the bindings, and a key comes twice. -/
theorem flags_may_stand_anywhere_between_two_bindings :
    IsFlagSet ["--verbose"] ∧
    (∀ b ∈ [Binding.mk "b" "1=é", ⟨"b", ""⟩], b.WellFormed) ∧
    (∀ text ∈ ["/:b", "b=1=é", "b="], ¬ StartsWithDash text) ∧
    Interleaved ["--verbose"] ["/:b", "b=1=é", "b="] ["/:b", "b=1=é", "--verbose", "b="] ∧
    run (some "trace") ["/:b", "b=1=é", "--verbose", "b="] =
      run (some "trace") ["--verbose", "/:b", "b=1=é", "b="] ∧
    run (some "trace") ["--verbose", "--", "/:b", "b=1=é", "b="] =
      run (some "trace") ["--verbose", "/:b", "b=1=é", "b="] := by
  have hflags : IsFlagSet ["--verbose"] := by constructor <;> simp
  have hwell : ∀ b ∈ [Binding.mk "b" "1=é", ⟨"b", ""⟩], b.WellFormed := by decide
  have hdash : ∀ text ∈ ["/:b", "b=1=é", "b="], ¬ StartsWithDash text := by decide
  have hplaced : Interleaved ["--verbose"] ["/:b", "b=1=é", "b="]
      ["/:b", "b=1=é", "--verbose", "b="] :=
    .right (.right (.left (.right .nil)))
  exact ⟨hflags, hwell, hdash, hplaced,
    flags_may_stand_anywhere (some "trace") hflags hwell hdash (by simp) (.refl _) hplaced⟩

end PathTemplate.Command
