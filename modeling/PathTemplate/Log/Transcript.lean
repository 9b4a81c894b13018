-- A log as a reader of lines takes it apart. Each entry begins with its time, and by
-- that a reader knows it. An entry that holds a line feed goes on in a line without a
-- time, and so all from there on is no log to that reader.
import PathTemplate.Text.Parts

namespace PathTemplate.Log

/-! ## Times -/

/-- The shape of a time, where zeros stand for digits. -/
def timeShape : List Char := "0000-00-00T00:00:00.000000Z".toList

def fitsShape (shape c : Char) : Bool := if shape = '0' then c.isDigit else c == shape

/-- Reads a time and the spaces after it, and gives what stands behind them. -/
def behindTime? (cs : List Char) : Option (List Char) :=
  let time := cs.take timeShape.length
  match cs.drop timeShape.length with
  | ' ' :: rest =>
    if (timeShape.zip time).all fun (shape, c) => fitsShape shape c then
      some (rest.dropWhile (· == ' '))
    else none
  | _ => none

theorem behindTime?_eq_none {cs : List Char} (h : ∀ c ∈ cs.head?, c.isDigit = false) :
    behindTime? cs = none := by
  have hshape : timeShape = '0' :: timeShape.tail := by decide
  cases cs with
  | nil => simp [behindTime?]
  | cons c cs =>
    have hc : c.isDigit = false := h c rfl
    unfold behindTime?
    rw [hshape]
    split <;> simp [fitsShape, hc]

theorem sublist_of_behindTime? {cs text : List Char} (h : behindTime? cs = some text) :
    text.Sublist cs := by
  unfold behindTime? at h
  split at h
  · next rest hdrop =>
    simp only at h
    split at h
    · cases h
      have hrest : (' ' :: rest).Sublist cs := hdrop ▸ List.drop_sublist _ _
      exact (List.dropWhile_sublist _).trans ((List.sublist_cons_self _ _).trans hrest)
    · cases h
  · cases h

/-! ## Lines -/

structure Line where
  /-- Whether an entry begins in it. Its time is left out here. -/
  isEntry : Bool
  text : List Char
  deriving Repr, DecidableEq

namespace Line

def ofEntry (entry : String) : List Line :=
  match Text.partsAt '\n' entry.toList with
  | [] => []
  | first :: more => ⟨true, first⟩ :: more.map (⟨false, ·⟩)

def ofText (text : String) : List Line := (Text.partsAt '\n' text.toList).map (⟨false, ·⟩)

/-- The text of a line, if a reader takes it for the first line of an entry. -/
def entry? (l : Line) : Option (List Char) :=
  if l.isEntry then some l.text else behindTime? l.text

theorem sublist_of_entry? {l : Line} {text : List Char} (h : l.entry? = some text) :
    text.Sublist l.text := by
  unfold entry? at h
  split at h
  · cases h
    exact List.Sublist.refl _
  · exact sublist_of_behindTime? h

theorem not_mem_of_mem_ofEntry {entry : String} : ∀ l ∈ ofEntry entry, '\n' ∉ l.text := by
  have hnone : ∀ part ∈ Text.partsAt '\n' entry.toList, '\n' ∉ part := Text.not_mem_of_mem_partsAt
  unfold ofEntry
  cases hparts : Text.partsAt '\n' entry.toList with
  | nil => simp
  | cons first more => simpa [hparts] using hnone

theorem not_mem_of_mem_ofText {text : String} : ∀ l ∈ ofText text, '\n' ∉ l.text := by
  intro l hl
  obtain ⟨part, hpart, rfl⟩ := List.mem_map.1 hl
  exact Text.not_mem_of_mem_partsAt part hpart

end Line

/-! ## Transcripts -/

/-- A text with the entries of a log at its head. -/
structure Transcript where
  /-- The lines that begin with a time, without the time. -/
  lines : List String
  /-- All that stands behind them. -/
  rest : String
  deriving Repr, DecidableEq

namespace Transcript

def cons (line : String) (t : Transcript) : Transcript := { t with lines := line :: t.lines }

def dropReturn (cs : List Char) : List Char :=
  if cs.getLast? = some '\r' then cs.dropLast else cs

/-- Takes the entries at the head off, and joins the other lines again. -/
def ofLines : List Line → Transcript
  | [] => ⟨[], ""⟩
  | l :: lines =>
    match l.entry? with
    | some text => (ofLines lines).cons (String.ofList (dropReturn text))
    | none => ⟨[], String.ofList (['\n'].intercalate ((l :: lines).map Line.text))⟩

/-- Takes entries and the text behind them apart. -/
def ofEntries (behind : String) (entries : List String) : Transcript :=
  ofLines (entries.flatMap Line.ofEntry ++ Line.ofText behind)

/-- Text that does not begin like a time holds no entries. -/
theorem ofEntries_nil {behind : String} (h : ∀ c ∈ behind.toList.head?, c.isDigit = false) :
    ofEntries behind [] = ⟨[], behind⟩ := by
  have hjoin := Text.intercalate_partsAt '\n' behind.toList
  cases hparts : Text.partsAt '\n' behind.toList with
  | nil => exact absurd hparts (Text.partsAt_ne_nil '\n' behind.toList)
  | cons first more =>
    rw [hparts] at hjoin
    have hfirst : behindTime? first = none := by
      refine behindTime?_eq_none fun c hc => h c ?_
      cases first with
      | nil => simp at hc
      | cons d ds =>
        rw [← hjoin]
        cases more <;> simpa [List.intercalate] using hc
    simp [ofEntries, Line.ofText, hparts, ofLines, Line.entry?, hfirst, Function.comp_def, hjoin]

/-! ## Entries of one line -/

/-- A text that a reader gets back from a line of its own. A carriage return at the end of a
line is not a part of it to a reader. -/
structure IsLine (entry : String) : Prop where
  noFeed : '\n' ∉ entry.toList
  noReturn : entry.toList.getLast? ≠ some '\r'

theorem dropReturn_sublist (cs : List Char) : (dropReturn cs).Sublist cs := by
  unfold dropReturn
  split
  · exact List.dropLast_sublist cs
  · exact List.Sublist.refl cs

theorem dropReturn_eq_self_iff {cs : List Char} :
    dropReturn cs = cs ↔ cs.getLast? ≠ some '\r' := by
  unfold dropReturn
  split
  · next hlast =>
    have hne : cs ≠ [] := by
      rintro rfl
      cases hlast
    have hlength := List.length_pos_iff.2 hne
    constructor
    · intro h
      have := congrArg List.length h
      rw [List.length_dropLast] at this
      omega
    · exact fun h => absurd hlast h
  · next hlast => simpa using hlast

theorem ofEntries_cons {behind entry : String} {entries : List String}
    (h : '\n' ∉ entry.toList) :
    ofEntries behind (entry :: entries) =
      (ofEntries behind entries).cons (String.ofList (dropReturn entry.toList)) := by
  simp [ofEntries, Line.ofEntry, Text.partsAt_of_not_mem h, ofLines, Line.entry?]

/-- Entries without line feeds are lines, and the text behind them is the rest. -/
theorem ofEntries_of_noFeed {behind : String} {entries : List String}
    (hbehind : ∀ c ∈ behind.toList.head?, c.isDigit = false)
    (h : ∀ entry ∈ entries, '\n' ∉ entry.toList) :
    ofEntries behind entries =
      ⟨entries.map fun entry => String.ofList (dropReturn entry.toList), behind⟩ := by
  induction entries with
  | nil => exact ofEntries_nil hbehind
  | cons entry entries ih =>
    rw [ofEntries_cons (h entry List.mem_cons_self),
      ih fun e he => h e (List.mem_cons_of_mem _ he), cons, List.map_cons]

theorem not_mem_of_mem_ofLines {lines : List Line} (h : ∀ l ∈ lines, '\n' ∉ l.text) :
    ∀ line ∈ (ofLines lines).lines, '\n' ∉ line.toList := by
  induction lines with
  | nil => simp [ofLines]
  | cons l lines ih =>
    intro line hline
    cases hentry : l.entry? with
    | none => simp [ofLines, hentry] at hline
    | some text =>
      simp only [ofLines, hentry, cons, List.mem_cons] at hline
      rcases hline with rfl | hline
      · intro hmem
        rw [String.toList_ofList] at hmem
        have hsub := (dropReturn_sublist text).trans (Line.sublist_of_entry? hentry)
        exact h l List.mem_cons_self (hsub.subset hmem)
      · exact ih (fun l' hl' => h l' (List.mem_cons_of_mem _ hl')) line hline

/-- A reader finds just the entries, and the text behind them, exactly if each entry is a line. -/
theorem ofEntries_eq_iff {behind : String} {entries : List String}
    (hbehind : ∀ c ∈ behind.toList.head?, c.isDigit = false) :
    ofEntries behind entries = ⟨entries, behind⟩ ↔ ∀ entry ∈ entries, IsLine entry := by
  constructor
  · intro h entry hmem
    have hlines : ∀ line ∈ (ofEntries behind entries).lines, '\n' ∉ line.toList := by
      apply not_mem_of_mem_ofLines
      intro l hl
      rcases List.mem_append.1 hl with hl | hl
      · obtain ⟨e, -, hl⟩ := List.mem_flatMap.1 hl
        exact Line.not_mem_of_mem_ofEntry l hl
      · exact Line.not_mem_of_mem_ofText l hl
    rw [h] at hlines
    refine ⟨hlines entry hmem, ?_⟩
    rw [ofEntries_of_noFeed hbehind hlines] at h
    have hsame := (congrArg Transcript.lines h).trans (List.map_id entries).symm
    have hentry := List.map_inj_left.1 hsame entry hmem
    rw [id, ← String.toList_inj, String.toList_ofList] at hentry
    exact dropReturn_eq_self_iff.1 hentry
  · intro h
    rw [ofEntries_of_noFeed hbehind fun entry hmem => (h entry hmem).noFeed]
    have hsame : ∀ entry ∈ entries, String.ofList (dropReturn entry.toList) = id entry := by
      intro entry hmem
      rw [dropReturn_eq_self_iff.2 (h entry hmem).noReturn, String.ofList_toList, id]
    rw [List.map_inj_left.2 hsame, List.map_id]

end Transcript

end PathTemplate.Log
