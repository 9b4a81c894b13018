-- What it is to read a text, piece by piece. A piece goes on as far as its
-- class of characters does, and what comes behind it is read in the same way.
-- The parser reads each text in the one way there is.
import PathTemplate.Template

namespace PathTemplate

open Text (byteLength)

/-! ## Runs -/

/-- One or more characters, all of one class. -/
structure IsRun (inClass : Char → Bool) (run : List Char) : Prop where
  ne_nil : run ≠ []
  all : ∀ c ∈ run, inClass c = true

instance (inClass : Char → Bool) (run : List Char) : Decidable (IsRun inClass run) :=
  decidable_of_iff (run ≠ [] ∧ run.all inClass = true)
    ⟨fun h => ⟨h.1, List.all_eq_true.1 h.2⟩, fun h => ⟨h.1, List.all_eq_true.2 h.2⟩⟩

theorem IsRun.getElem?_ne {inClass : Char → Bool} {run : List Char} (h : IsRun inClass run)
    {c : Char} (hc : inClass c = false) (i : Nat) : run[i]? ≠ some c := by
  intro hget
  rw [h.all c (List.mem_of_getElem? hget)] at hc
  cases hc

theorem IsRun.append {inClass : Char → Bool} {a b : List Char} (h : IsRun inClass a)
    (hb : ∀ c ∈ b, inClass c = true) : IsRun inClass (a ++ b) := by
  refine ⟨List.append_ne_nil_of_left_ne_nil h.ne_nil b, ?_⟩
  intro c hc
  rcases List.mem_append.1 hc with hc | hc
  · exact h.all c hc
  · exact hb c hc

/-- No character of the class stands in front. -/
def Stops (inClass : Char → Bool) (rest : List Char) : Prop :=
  ∀ c, rest.head? = some c → inClass c = false

theorem stops_iff {inClass : Char → Bool} {rest : List Char} :
    Stops inClass rest ↔ rest.takeWhile inClass = [] := by
  cases rest with
  | nil => simp [Stops]
  | cons c cs => simp [Stops, List.takeWhile_cons]

instance (inClass : Char → Bool) (rest : List Char) : Decidable (Stops inClass rest) :=
  decidable_of_iff _ stops_iff.symm

theorem stops_append_iff {inClass : Char → Bool} {a b : List Char} (ha : a ≠ []) :
    Stops inClass (a ++ b) ↔ Stops inClass a := by
  obtain ⟨c, cs, rfl⟩ := List.exists_cons_of_ne_nil ha
  exact Iff.rfl

theorem stops_dropWhile (inClass : Char → Bool) (cs : List Char) :
    Stops inClass (cs.dropWhile inClass) := by
  intro c hc
  have hnot := List.head?_dropWhile_not inClass cs
  rwa [hc] at hnot

theorem isRun_takeWhile {inClass : Char → Bool} {cs : List Char}
    (h : cs.takeWhile inClass ≠ []) : IsRun inClass (cs.takeWhile inClass) :=
  ⟨h, List.all_eq_true.1 List.all_takeWhile⟩

/-- A run takes all that it can. -/
theorem takeWhile_run {inClass : Char → Bool} {run rest : List Char}
    (h : ∀ c ∈ run, inClass c = true) (hrest : Stops inClass rest) :
    (run ++ rest).takeWhile inClass = run := by
  rw [List.takeWhile_append_of_pos h, stops_iff.1 hrest, List.append_nil]

theorem dropWhile_run {inClass : Char → Bool} {run rest : List Char}
    (h : ∀ c ∈ run, inClass c = true) (hrest : Stops inClass rest) :
    (run ++ rest).dropWhile inClass = rest := by
  have hsplit := List.takeWhile_append_dropWhile (p := inClass) (l := run ++ rest)
  rw [takeWhile_run h hrest] at hsplit
  exact List.append_cancel_left hsplit

/-- What stands in front of the first separator, and what stands behind it, are known from the
whole. -/
theorem eq_of_first_separator {c : Char} {a b rest rest' : List Char} (ha : c ∉ a) (hb : c ∉ b)
    (h : a ++ c :: rest = b ++ c :: rest') : a = b ∧ rest = rest' := by
  have hall {cs : List Char} (hcs : c ∉ cs) : ∀ d ∈ cs, (d != c) = true := by
    intro d hd
    rw [bne_iff_ne]
    rintro rfl
    exact hcs hd
  have hstops (cs : List Char) : Stops (· != c) (c :: cs) := by simp [Stops]
  have hfront : a = b := by
    have htake := congrArg (List.takeWhile (· != c)) h
    rwa [takeWhile_run (hall ha) (hstops rest), takeWhile_run (hall hb) (hstops rest')] at htake
  subst hfront
  simpa using h

/-! ## Readings -/

theorem map_eq_ok_iff {α β : Type} {x : Except Error α} {f : α → β} {b : β} :
    x.map f = .ok b ↔ ∃ a, x = .ok a ∧ f a = b := by
  cases x <;> simp [Except.map]

theorem map_eq_error_iff {α β : Type} {x : Except Error α} {f : α → β} {e : Error} :
    x.map f = .error e ↔ x = .error e := by
  cases x <;> simp [Except.map]

/-- How a text behind so many bytes is read, and what comes of it. -/
inductive Reads : Nat → List Char → Except Error (List Token) → Prop
  | done {offset} : Reads offset [] (.ok [])
  | bare {offset rest} : Stops isNameChar rest →
      Reads offset (':' :: rest) (.error (.invalidDeclaration offset))
  | placeholder {offset name rest result} : IsRun isNameChar name → Stops isNameChar rest →
      Reads (offset + byteLength (':' :: name)) rest result →
      Reads offset (':' :: name ++ rest) (result.map (.placeholder (String.ofList name) :: ·))
  | literal {offset text rest result} : IsRun isLiteralChar text → Stops isLiteralChar rest →
      Reads (offset + byteLength text) rest result →
      Reads offset (text ++ rest) (result.map (.literal (String.ofList text) :: ·))

theorem byteLength_colon_cons (name : List Char) :
    byteLength (':' :: name) = 1 + byteLength name := rfl

/-- The parser reads every text. -/
theorem reads_tokensFrom (offset : Nat) (cs : List Char) :
    Reads offset cs (Template.tokensFrom offset cs) := by
  fun_induction Template.tokensFrom offset cs with
  | case1 => exact .done
  | case2 offset cs name hname => exact .bare (stops_iff.2 hname)
  | case3 offset cs name hname ih =>
    rw [Nat.add_assoc, ← byteLength_colon_cons] at ih ⊢
    have hreads := Reads.placeholder (isRun_takeWhile hname) (stops_dropWhile _ cs) ih
    rwa [List.cons_append, List.takeWhile_append_dropWhile] at hreads
  | case4 offset c cs hc text ih =>
    have htext : (c :: cs).takeWhile isLiteralChar = text := by
      simp [text, List.takeWhile_cons, isLiteralChar, hc]
    have hrun : IsRun isLiteralChar text := htext ▸ isRun_takeWhile (by simp [htext, text])
    have hreads := Reads.literal hrun (stops_dropWhile _ cs) ih
    rwa [List.cons_append, List.takeWhile_append_dropWhile] at hreads

/-- A text is read in one way, which is the way of the parser. -/
theorem reads_iff {offset : Nat} {cs : List Char} {result : Except Error (List Token)} :
    Reads offset cs result ↔ Template.tokensFrom offset cs = result := by
  refine ⟨fun h => ?_, ?_⟩
  · induction h with
    | done => exact Template.tokensFrom_nil _
    | bare hrest => exact Template.tokensFrom_colon_of_no_name _ (stops_iff.1 hrest)
    | placeholder hname hrest _ ih =>
      have htake := takeWhile_run hname.all hrest
      rw [List.cons_append, Template.tokensFrom_colon _ (by rw [htake]; exact hname.ne_nil),
        htake, dropWhile_run hname.all hrest, Nat.add_assoc, ← byteLength_colon_cons, ih]
    | @literal _ text rest _ htext hrest _ ih =>
      cases text with
      | nil => exact absurd rfl htext.ne_nil
      | cons c text =>
        have hc : c ≠ ':' := by simpa [isLiteralChar] using htext.all c List.mem_cons_self
        have hall : ∀ d ∈ text, isLiteralChar d = true :=
          fun d hd => htext.all d (List.mem_cons_of_mem _ hd)
        rw [List.cons_append, Template.tokensFrom_of_ne_colon _ _ hc, takeWhile_run hall hrest,
          dropWhile_run hall hrest, ih]
  · rintro rfl
    exact reads_tokensFrom offset cs

namespace Template

theorem parse_eq_ok_iff {s : String} {t : Template} :
    parse s = .ok t ↔ tokensFrom 0 s.toList = .ok t.tokens ∧ t.source = s := by
  unfold parse
  rw [map_eq_ok_iff]
  refine ⟨?_, ?_⟩
  · rintro ⟨tokens, h, rfl⟩
    exact ⟨h, rfl⟩
  · rintro ⟨h, rfl⟩
    exact ⟨t.tokens, h, rfl⟩

theorem reads_of_parse {s : String} {t : Template} (h : parse s = .ok t) :
    Reads 0 s.toList (.ok t.tokens) :=
  reads_iff.2 (parse_eq_ok_iff.1 h).1

end Template

end PathTemplate
