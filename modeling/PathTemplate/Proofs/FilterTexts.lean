-- How the usual filters of a log are written: as a level, or as a target, an equals sign
-- and a level. Each of them is read as one rule with just that level and target.
import Mathlib
import PathTemplate.Log.Filter
import PathTemplate.Proofs.Reading

namespace PathTemplate

/-! ## White space -/

namespace Text

/-- Runs that lie apart have no character in common. -/
theorem inRuns_eq_false_of_apart {runs others : List Run}
    (h : (runs.all fun a => others.all fun b => Nat.blt a.2 b.1 || Nat.blt b.2 a.1) = true)
    {c : Char} (hc : inRuns runs c = true) : inRuns others c = false := by
  simp only [List.all_eq_true, Bool.or_eq_true, Nat.blt_eq] at h
  rw [Bool.eq_false_iff]
  intro hother
  obtain ⟨a, ha, halow, hahigh⟩ := inRuns_iff.1 hc
  obtain ⟨b, hb, hblow, hbhigh⟩ := inRuns_iff.1 hother
  rcases h a ha b hb with hapart | hapart <;> omega

theorem isBlank_eq_false_of_isAlphanum {c : Char} (h : c.isAlphanum = true) :
    isBlank c = false := by
  rw [Bool.eq_false_iff, isBlank]
  intro hblank
  obtain ⟨run, hrun, hlow, hhigh⟩ := inRuns_iff.1 hblank
  have hapart : ∀ run ∈ blankRuns, run.2 < '0'.toNat ∨ 'z'.toNat < run.1 := by decide
  have hbetween : '0'.toNat ≤ c.toNat ∧ c.toNat ≤ 'z'.toNat := by
    simp only [Char.isAlphanum, Char.isAlpha, Char.isUpper, Char.isLower, Char.isDigit,
      Bool.or_eq_true, Bool.and_eq_true, decide_eq_true_eq, UInt32.le_iff_toNat_le, ge_iff_le] at h
    change (((65 ≤ c.toNat ∧ c.toNat ≤ 90) ∨ (97 ≤ c.toNat ∧ c.toNat ≤ 122)) ∨
      (48 ≤ c.toNat ∧ c.toNat ≤ 57)) at h
    change 48 ≤ c.toNat ∧ c.toNat ≤ 122
    omega
  rcases hapart run hrun with hbefore | hbehind <;> omega

/-- No letter and no number is white space. -/
theorem isBlank_eq_false_of_isAlphanumeric {c : Char} (h : isAlphanumeric c = true) :
    isBlank c = false := by
  simp only [isAlphanumeric, isAlphabetic, Bool.or_eq_true] at h
  rcases h with ((halpha | hletter) | hdigit) | hnumber
  · exact isBlank_eq_false_of_isAlphanum (by simp [Char.isAlphanum, halpha])
  · exact inRuns_eq_false_of_apart (by decide +kernel) hletter
  · exact isBlank_eq_false_of_isAlphanum (by simp [Char.isAlphanum, hdigit])
  · exact inRuns_eq_false_of_apart (by decide +kernel) hnumber

/-- A text without white space at its ends is left as it is. -/
theorem trimmed_eq_self {cs : List Char} (hstart : Stops isBlank cs)
    (hend : Stops isBlank cs.reverse) : trimmed cs = cs := by
  have hnone (cs : List Char) (h : Stops isBlank cs) : cs.dropWhile isBlank = cs :=
    dropWhile_run (fun _ hc => absurd hc List.not_mem_nil) h
  rw [trimmed, hnone cs hstart, hnone _ hend, List.reverse_reverse]

end Text

namespace Log

/-! ## Targets -/

/-- Text that begins as a target does, and that no scope and no level ends. -/
structure IsTarget (cs : List Char) : Prop where
  starts : ∃ c rest, cs = c :: rest ∧ isTargetStart c = true
  all : ∀ c ∈ cs, isTargetChar c = true

theorem isBlank_eq_false_of_isTargetStart {c : Char} (h : isTargetStart c = true) :
    Text.isBlank c = false := by
  simp only [isTargetStart, Bool.or_eq_true, beq_iff_eq] at h
  rcases h with ((rfl | rfl) | rfl) | h
  · decide
  · decide
  · decide
  · exact Text.isBlank_eq_false_of_isAlphanumeric h

namespace IsTarget

variable {cs : List Char}

theorem ne_nil (h : IsTarget cs) : cs ≠ [] := by
  obtain ⟨c, rest, rfl, -⟩ := h.starts
  exact List.cons_ne_nil c rest

theorem stops_isBlank (h : IsTarget cs) (rest : List Char) : Stops Text.isBlank (cs ++ rest) := by
  obtain ⟨c, more, rfl, hc⟩ := h.starts
  intro d hd
  cases hd
  exact isBlank_eq_false_of_isTargetStart hc

/-- A rule that is a target has no other parts. -/
theorem outline (h : IsTarget cs) : Outline.ofText? cs = some ⟨cs, none, none⟩ := by
  obtain ⟨c, rest, rfl, hc⟩ := h.starts
  have hnothing : Stops isTargetChar [] := by simp [Stops]
  have htake := takeWhile_run h.all hnothing
  have hdrop := dropWhile_run h.all hnothing
  rw [List.append_nil] at htake hdrop
  simp only [Outline.ofText?, htake, hdrop, hc, if_true]

/-- An equals sign ends a target, and what stands behind it is the level. -/
theorem outline_level (h : IsTarget cs) (level : List Char) :
    Outline.ofText? (cs ++ '=' :: level) = some ⟨cs, none, some level⟩ := by
  obtain ⟨c, rest, rfl, hc⟩ := h.starts
  have hequals : Stops isTargetChar ('=' :: level) := by
    intro d hd
    cases hd
    rfl
  have htake := takeWhile_run h.all hequals
  have hdrop := dropWhile_run h.all hequals
  simp only [Outline.ofText?, htake, hdrop, hc, if_true]
  rfl

end IsTarget

/-! ## Texts of levels and targets -/

/-- A text that says how severe events have to be: a word or digits that are read as a level. -/
structure LevelText where
  text : String
  /-- The least severe level that is shown. Without a level nothing is. -/
  level : Option Level
  reads : Level.ofText? text.toList = some level
  all : ∀ c ∈ text.toList, c.isAlphanum = true

/-- A text that says where events have to come from. -/
structure TargetText where
  text : String
  isTarget : IsTarget text.toList
  noComma : ',' ∉ text.toList

namespace LevelText

variable (l : LevelText)

theorem ne_nil : l.text.toList ≠ [] := by
  intro h
  have hreads := l.reads
  rw [h] at hreads
  cases hreads

theorem not_mem {c : Char} (hc : c.isAlphanum = false) : c ∉ l.text.toList := by
  intro hmem
  rw [l.all c hmem] at hc
  cases hc

/-- A level alone could be a target as well. -/
theorem isTarget : IsTarget l.text.toList := by
  obtain ⟨c, rest, htext⟩ := List.exists_cons_of_ne_nil l.ne_nil
  constructor
  · have hc : c.isAlphanum = true := l.all c (htext ▸ List.mem_cons_self)
    refine ⟨c, rest, htext, ?_⟩
    rw [Char.isAlphanum, Bool.or_eq_true] at hc
    rcases hc with halpha | hdigit
    · simp [isTargetStart, Text.isAlphanumeric, Text.isAlphabetic, halpha]
    · simp [isTargetStart, Text.isAlphanumeric, hdigit]
  · intro d hd
    have hbracket : d ≠ '[' := fun h => l.not_mem (c := '[') rfl (h ▸ hd)
    have hequals : d ≠ '=' := fun h => l.not_mem (c := '=') rfl (h ▸ hd)
    simp [isTargetChar, hbracket, hequals]

/-- A text that ends in a level has no white space at its end. -/
theorem stops_isBlank_reverse (cs : List Char) :
    Stops Text.isBlank (cs ++ l.text.toList).reverse := by
  intro c hc
  rw [List.head?_reverse, List.getLast?_append_of_ne_nil _ l.ne_nil] at hc
  exact Text.isBlank_eq_false_of_isAlphanum (l.all c (List.mem_of_getLast? hc))

end LevelText

/-! ## Rules -/

namespace Rule

/-- A level alone is a rule about all events. -/
theorem ofText?_level (l : LevelText) :
    ofText? l.text.toList = some ⟨l.level, none, .everywhere⟩ := by
  have hstart := l.isTarget.stops_isBlank []
  have hend := l.stops_isBlank_reverse []
  rw [List.append_nil] at hstart
  rw [List.nil_append] at hend
  unfold ofText?
  simp only [Text.trimmed_eq_self hstart hend, l.isTarget.outline, ofWord, l.reads]

/-- A target and a level are a rule about the events from there. -/
theorem ofText?_target (t : TargetText) (l : LevelText) :
    ofText? (t.text.toList ++ '=' :: l.text.toList) = some ⟨l.level, some t.text, .everywhere⟩ := by
  have hstart := t.isTarget.stops_isBlank ('=' :: l.text.toList)
  have hend := l.stops_isBlank_reverse (t.text.toList ++ ['='])
  rw [List.append_assoc, List.singleton_append] at hend
  have htarget := Text.between?_append [] t.text.toList ('=' :: l.text.toList)
  rw [List.nil_append, Text.byteLength_nil] at htarget
  have hlevel : levelOf? ⟨t.text.toList, none, some l.text.toList⟩
      (Text.byteLength (t.text.toList ++ '=' :: l.text.toList))
      (t.text.toList ++ '=' :: l.text.toList) = some l.level := by
    have hplace : Outline.levelStart ⟨t.text.toList, none, some l.text.toList⟩
        (Text.byteLength (t.text.toList ++ '=' :: l.text.toList)) =
        Text.byteLength (t.text.toList ++ ['=']) := by
      simp [Outline.levelStart]
      omega
    have hdrop := Text.dropBytes?_append (t.text.toList ++ ['=']) l.text.toList
    rw [List.append_assoc, List.singleton_append] at hdrop
    obtain ⟨c, rest, htext⟩ := List.exists_cons_of_ne_nil l.ne_nil
    have hreads := l.reads
    rw [htext] at hdrop hreads hplace ⊢
    simp only [levelOf?, hplace, hdrop, hreads]
  unfold ofText?
  simp only [Text.trimmed_eq_self hstart hend, t.isTarget.outline_level, htarget, hlevel, scopeOf?,
    targetOf, t.isTarget.ne_nil, if_false, String.ofList_toList]

end Rule

/-! ## Filters -/

/-- A filter of one rule is read as that rule. -/
theorem Filter.ofText?_of_rule {text : String} {r : Rule} (hcomma : ',' ∉ text.toList)
    (hempty : text.toList ≠ []) (h : Rule.ofText? text.toList = some r) :
    ofText? text = some ⟨[r]⟩ := by
  unfold ofText?
  rw [Text.partsAt_of_not_mem hcomma]
  simp [hempty, h]

/-- What is asked for about the log: nothing, a level, or a target and a level. -/
inductive Setting where
  | unset
  | atLevel (l : LevelText)
  | ofTarget (t : TargetText) (l : LevelText)

namespace Setting

/-- A setting as the text of a filter. -/
def text? : Setting → Option String
  | unset => none
  | atLevel l => some l.text
  | ofTarget t l => some (t.text ++ "=" ++ l.text)

/-- The least severe level that is shown. If nothing is asked for, it is up to the command line. -/
def level? (verbose : Bool) : Setting → Option Level
  | unset => some (if verbose then .debug else .warn)
  | atLevel l => l.level
  | ofTarget _ l => l.level

/-- What the targets that are shown begin with. -/
def target? : Setting → Option String
  | unset => some "snowurl"
  | atLevel _ => none
  | ofTarget t _ => some t.text

/-- Whether an event is to be shown: it is as severe as the level, and it comes from the
target. -/
structure Shows (setting : Setting) (verbose : Bool) (e : Event) : Prop where
  severe : ∃ level, setting.level? verbose = some level ∧ e.level.verbosity ≤ level.verbosity
  comes : ∀ target, setting.target? = some target → target.toList <+: e.target.toList

/-- A setting that asks for less from the same place. -/
structure IsQuieter (verbose : Bool) (setting other : Setting) : Prop where
  level : ∀ a, setting.level? verbose = some a →
    ∃ b, other.level? verbose = some b ∧ a.verbosity ≤ b.verbosity
  target : other.target? = setting.target?

variable {setting other : Setting} {verbose : Bool} {e : Event}

theorem Shows.mono (h : setting.Shows verbose e) (hquiet : IsQuieter verbose setting other) :
    other.Shows verbose e := by
  obtain ⟨⟨a, ha, hle⟩, hcomes⟩ := h
  obtain ⟨b, hb, hab⟩ := hquiet.level a ha
  rw [← hquiet.target] at hcomes
  exact ⟨⟨b, hb, hle.trans hab⟩, hcomes⟩

/-- With more words, the standard log shows the failures and nothing else. -/
theorem shows_unset_iff :
    unset.Shows true e ↔ ∃ s error, e = .failed s error := by
  constructor
  · rintro ⟨⟨level, hlevel, hle⟩, -⟩
    cases hlevel
    cases e with
    | parsed | built => simp [Event.level, Level.verbosity] at hle
    | failed s error => exact ⟨s, error, rfl⟩
  · rintro ⟨s, error, rfl⟩
    refine ⟨⟨.debug, rfl, le_refl _⟩, ?_⟩
    intro target htarget
    cases htarget
    change "snowurl".toList <+: "snowurl::builder".toList
    decide

/-- The one rule that a setting stands for. -/
def filter (setting : Setting) (verbose : Bool) : Filter :=
  ⟨[⟨setting.level? verbose, setting.target?, .everywhere⟩]⟩

theorem allows_filter : (setting.filter verbose).allows e = true ↔ setting.Shows verbose e := by
  have hconcerns : Rule.concerns ⟨setting.level? verbose, setting.target?, .everywhere⟩ e = true ↔
      ∀ target, setting.target? = some target → target.toList <+: e.target.toList := by
    cases setting.target? <;> simp [Rule.concerns, Scope.contains]
  have hshows : Rule.shows ⟨setting.level? verbose, setting.target?, .everywhere⟩ e = true ↔
      ∃ level, setting.level? verbose = some level ∧ e.level.verbosity ≤ level.verbosity := by
    cases setting.level? verbose <;> simp [Rule.shows]
  rw [filter, Filter.allows_single, Bool.and_eq_true, hconcerns, hshows]
  exact ⟨fun h => ⟨h.2, h.1⟩, fun h => ⟨h.comes, h.severe⟩⟩

instance : Decidable (setting.Shows verbose e) := decidable_of_iff _ allows_filter

/-- The lines of a log are those of the events that its setting shows. -/
theorem lines_filter (events : List Event) :
    (setting.filter verbose).lines events =
      (events.filter (setting.Shows verbose)).map Event.line := by
  have hsame : (setting.filter verbose).allows = fun e => decide (setting.Shows verbose e) := by
    funext e
    rw [Bool.eq_iff_iff, allows_filter, decide_eq_true_iff]
  rw [Filter.lines, hsame]

/-- The text of a setting is read as its rule. -/
theorem filter_eq (setting : Setting) (verbose : Bool) :
    (setting.text?.bind Filter.ofText?).getD (.standard verbose) = setting.filter verbose := by
  cases setting with
  | unset => rfl
  | atLevel l =>
    have hread := Filter.ofText?_of_rule (l.not_mem (c := ',') rfl) l.ne_nil (Rule.ofText?_level l)
    simp only [text?, Option.bind_some, hread, Option.getD_some, filter, level?, target?]
  | ofTarget t l =>
    have htext : (t.text ++ "=" ++ l.text).toList = t.text.toList ++ '=' :: l.text.toList := by
      simp
    have hcomma : ',' ∉ (t.text ++ "=" ++ l.text).toList := by
      have hlevel := l.not_mem (c := ',') rfl
      simp [htext, t.noComma, hlevel]
    have hempty : (t.text ++ "=" ++ l.text).toList ≠ [] := by
      simp [htext]
    have hread := Filter.ofText?_of_rule hcomma hempty (htext ▸ Rule.ofText?_target t l)
    simp only [text?, Option.bind_some, hread, Option.getD_some, filter, level?, target?]

-- A word may be in letters of both kinds.
example : Filter.ofText? "snowurl::parser=Trace" =
    some ⟨[⟨some .trace, some "snowurl::parser", .everywhere⟩]⟩ := by
  decide +kernel

end Setting

end Log

end PathTemplate
