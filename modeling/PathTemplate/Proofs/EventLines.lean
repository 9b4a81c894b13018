-- The lines of a log. A line tells the level, the target and the message of its event, and then
-- its fields. The template stands between quotation marks, so a reader sees where it ends,
-- whatever it holds. What a line tells last stands there as it is. So a line tells which event
-- it is of, and only what it tells last can make it go on in another line.
import Mathlib
import PathTemplate.Log.Transcript
import PathTemplate.Proofs.Messages

namespace PathTemplate

namespace Text

/-! ## Texts in one line -/

/-- No line feed and no carriage return. -/
def InOneLine (cs : List Char) : Prop := '\n' ∉ cs ∧ '\r' ∉ cs

instance : DecidablePred InOneLine := fun cs =>
  inferInstanceAs (Decidable ('\n' ∉ cs ∧ '\r' ∉ cs))

theorem inOneLine_append {as bs : List Char} :
    InOneLine (as ++ bs) ↔ InOneLine as ∧ InOneLine bs := by
  simp only [InOneLine, List.mem_append, not_or]
  exact and_and_and_comm

theorem InOneLine.of_subset {as bs : List Char} (h : InOneLine bs) (hsub : as ⊆ bs) :
    InOneLine as :=
  ⟨fun hmem => h.1 (hsub hmem), fun hmem => h.2 (hsub hmem)⟩

theorem inOneLine_flatMap {α : Type} {as : List α} {f : α → List Char}
    (h : ∀ a ∈ as, InOneLine (f a)) : InOneLine (as.flatMap f) := by
  constructor
  · intro hmem
    obtain ⟨a, ha, hfeed⟩ := List.mem_flatMap.1 hmem
    exact (h a ha).1 hfeed
  · intro hmem
    obtain ⟨a, ha, hreturn⟩ := List.mem_flatMap.1 hmem
    exact (h a ha).2 hreturn

/-! ## Characters between quotation marks -/

/-- The characters that stand behind a backslash as a mark of their own. -/
def marks : List (Char × Char) :=
  [('"', '"'), ('\\', '\\'), ('\n', 'n'), ('\r', 'r'), ('\t', 't'), ('\x00', '0')]

/-- A character without a mark is none of those that have one. -/
theorem ne_of_unmarked {c d mark : Char} (hc : ∀ mark, (c, mark) ∉ marks)
    (hd : (d, mark) ∈ marks) : c ≠ d := by
  rintro rfl
  exact hc mark hd

/-- How a character stands between quotation marks: as its mark, as itself, or as its code. -/
inductive StandsAs (c : Char) : List Char → Prop
  | marked {mark} : (c, mark) ∈ marks → StandsAs c ['\\', mark]
  | itself : (∀ mark, (c, mark) ∉ marks) → StandsAs c [c]
  | coded : StandsAs c ('\\' :: 'u' :: '\x7b' :: (Nat.toDigits 16 c.toNat ++ ['\x7d']))

theorem standsAs_quotedChar (c : Char) : StandsAs c (quotedChar c) := by
  unfold quotedChar
  by_cases hquote : c = '"' ∨ c = '\\'
  · rw [if_pos hquote]
    rcases hquote with rfl | rfl
    · exact .marked (by decide)
    · exact .marked (by decide)
  rw [if_neg hquote]
  by_cases hfeed : c = '\n'
  · subst hfeed
    exact .marked (by decide)
  by_cases hreturn : c = '\r'
  · subst hreturn
    exact .marked (by decide)
  by_cases htab : c = '\t'
  · subst htab
    exact .marked (by decide)
  by_cases hnull : c = '\x00'
  · subst hnull
    exact .marked (by decide)
  rw [if_neg hfeed, if_neg hreturn, if_neg htab, if_neg hnull]
  split
  · rw [not_or] at hquote
    exact .itself (by simp [marks, hquote, hfeed, hreturn, htab, hnull])
  · exact .coded

/-! ## Codes of characters -/

theorem digitChar_inj {m n : Nat} (hm : m < 16) (hn : n < 16)
    (h : Nat.digitChar m = Nat.digitChar n) : m = n := by
  have hall : ∀ i < 16, ∀ j < 16, Nat.digitChar i = Nat.digitChar j → i = j := by decide
  exact hall m hm n hn h

theorem length_toDigits_le_one_iff {n : Nat} : (Nat.toDigits 16 n).length ≤ 1 ↔ n < 16 := by
  rw [Nat.length_toDigits_le_iff (by decide) (by decide), pow_one]

/-- Different numbers have different digits. What stands in front of the last digit is known by
induction. -/
theorem toDigits_sixteen_inj {m n : Nat} (h : Nat.toDigits 16 m = Nat.toDigits 16 n) : m = n := by
  induction m using Nat.strongRecOn generalizing n with
  | _ m ih =>
    have hsmall : m < 16 ↔ n < 16 := by
      rw [← length_toDigits_le_one_iff, h, length_toDigits_le_one_iff]
    by_cases hm : m < 16
    · rw [Nat.toDigits_of_lt_base hm, Nat.toDigits_of_lt_base (hsmall.1 hm)] at h
      exact digitChar_inj hm (hsmall.1 hm) (List.cons.inj h).1
    · have hn : ¬ n < 16 := mt hsmall.2 hm
      rw [Nat.toDigits_of_base_le (by decide) (not_lt.1 hm),
        Nat.toDigits_of_base_le (by decide) (not_lt.1 hn)] at h
      obtain ⟨hfront, hlast⟩ := List.append_inj' h rfl
      have hquotient := ih (m / 16) (by omega) hfront
      have hremainder := digitChar_inj (by omega) (by omega) (List.cons.inj hlast).1
      omega

theorem isAlphanum_of_mem_toDigits {n : Nat} {c : Char} (h : c ∈ Nat.toDigits 16 n) :
    c.isAlphanum = true := by
  have hall : ∀ i < 16, (Nat.digitChar i).isAlphanum = true := by decide
  induction n using Nat.strongRecOn with
  | _ n ih =>
    rw [Nat.toDigits_eq_if (by decide)] at h
    split at h
    · rename_i hn
      rw [List.mem_singleton.1 h]
      exact hall n hn
    · rename_i hn
      rcases List.mem_append.1 h with hfront | hlast
      · exact ih (n / 16) (by omega) hfront
      · rw [List.mem_singleton.1 hlast]
        exact hall (n % 16) (by omega)

theorem not_mem_toDigits {c : Char} (h : c.isAlphanum = false) (n : Nat) :
    c ∉ Nat.toDigits 16 n := by
  intro hmem
  rw [isAlphanum_of_mem_toDigits hmem] at h
  cases h

/-! ## Quoted texts -/

namespace StandsAs

variable {c d : Char} {as bs rest rest' : List Char}

/-- Where one character stands for another begins, and where it ends, is known from the text. -/
theorem append_inj (ha : StandsAs c as) (hb : StandsAs d bs) (h : as ++ rest = bs ++ rest') :
    c = d ∧ rest = rest' := by
  have hinj : ∀ p ∈ marks, ∀ q ∈ marks, p.2 = q.2 → p.1 = q.1 := by decide
  have hcode : ∀ p ∈ marks, p.2 ≠ 'u' := by decide
  have hback : ('\\', '\\') ∈ marks := by decide
  cases ha with
  | marked hc =>
    cases hb with
    | marked hd =>
      simp only [List.cons_append, List.nil_append, List.cons.injEq, true_and] at h
      exact ⟨hinj _ hc _ hd h.1, h.2⟩
    | itself hd =>
      simp only [List.cons_append, List.nil_append, List.cons.injEq] at h
      exact absurd h.1.symm (ne_of_unmarked hd hback)
    | coded =>
      simp only [List.cons_append, List.nil_append, List.cons.injEq, true_and] at h
      exact absurd h.1 (hcode _ hc)
  | itself hc =>
    cases hb with
    | itself hd => simpa using h
    | marked hd | coded =>
      simp only [List.cons_append, List.nil_append, List.cons.injEq] at h
      exact absurd h.1 (ne_of_unmarked hc hback)
  | coded =>
    cases hb with
    | marked hd =>
      simp only [List.cons_append, List.nil_append, List.cons.injEq, true_and] at h
      exact absurd h.1.symm (hcode _ hd)
    | itself hd =>
      simp only [List.cons_append, List.nil_append, List.cons.injEq] at h
      exact absurd h.1.symm (ne_of_unmarked hd hback)
    | coded =>
      simp only [List.cons_append, List.append_assoc, List.cons.injEq, true_and,
        List.nil_append] at h
      obtain ⟨hdigits, hrest⟩ := eq_of_first_separator (not_mem_toDigits (by decide) _)
        (not_mem_toDigits (by decide) _) h
      exact ⟨Char.toNat_inj.1 (toDigits_sixteen_inj hdigits), hrest⟩

/-- No character stands for itself that would end the text. -/
theorem append_ne (h : StandsAs c as) : as ++ rest ≠ '"' :: rest' := by
  have hquote : ('"', '"') ∈ marks := by decide
  intro heq
  cases h with
  | itself hc =>
    simp only [List.cons_append, List.nil_append, List.cons.injEq] at heq
    exact ne_of_unmarked hc hquote heq.1
  | marked | coded => simp at heq

theorem inOneLine (h : StandsAs c as) : InOneLine as := by
  have hmarks : ∀ p ∈ marks, InOneLine [p.2] := by decide
  have hfeed : ('\n', 'n') ∈ marks := by decide
  have hreturn : ('\r', 'r') ∈ marks := by decide
  cases h with
  | @marked mark hc => exact inOneLine_append.2 ⟨show InOneLine ['\\'] by decide, hmarks _ hc⟩
  | itself hc =>
    constructor
    · exact fun hmem => ne_of_unmarked hc hfeed (List.mem_singleton.1 hmem).symm
    · exact fun hmem => ne_of_unmarked hc hreturn (List.mem_singleton.1 hmem).symm
  | coded =>
    have hdigits : InOneLine (Nat.toDigits 16 c.toNat) :=
      ⟨not_mem_toDigits (by decide) _, not_mem_toDigits (by decide) _⟩
    have hfront : InOneLine ['\\', 'u', '\x7b'] := by decide
    have hend : InOneLine ['\x7d'] := by decide
    exact inOneLine_append.2 ⟨hfront, inOneLine_append.2 ⟨hdigits, hend⟩⟩

end StandsAs

theorem flatMap_quotedChar_inj {cs ds rest rest' : List Char}
    (h : cs.flatMap quotedChar ++ '"' :: rest = ds.flatMap quotedChar ++ '"' :: rest') :
    cs = ds ∧ rest = rest' := by
  induction cs generalizing ds with
  | nil =>
    cases ds with
    | nil => simpa using h
    | cons d ds =>
      rw [List.flatMap_cons, List.append_assoc] at h
      exact absurd h.symm (standsAs_quotedChar d).append_ne
  | cons c cs ih =>
    cases ds with
    | nil =>
      rw [List.flatMap_cons, List.append_assoc] at h
      exact absurd h (standsAs_quotedChar c).append_ne
    | cons d ds =>
      rw [List.flatMap_cons, List.flatMap_cons, List.append_assoc, List.append_assoc] at h
      obtain ⟨rfl, hbehind⟩ := (standsAs_quotedChar c).append_inj (standsAs_quotedChar d) h
      obtain ⟨rfl, hrest⟩ := ih hbehind
      exact ⟨rfl, hrest⟩

theorem toList_quoted (s : String) :
    (quoted s).toList = '"' :: (s.toList.flatMap quotedChar ++ ['"']) := by
  rw [quoted, String.toList_ofList, List.cons_append]

/-- A quoted text is known from what begins with it. -/
theorem quoted_append_inj {s t : String} {rest rest' : String}
    (h : quoted s ++ rest = quoted t ++ rest') : s = t ∧ rest = rest' := by
  have hlists := congrArg String.toList h
  simp only [String.toList_append, toList_quoted, List.cons_append, List.append_assoc,
    List.nil_append, List.cons.injEq, true_and] at hlists
  obtain ⟨htext, hrest⟩ := flatMap_quotedChar_inj hlists
  exact ⟨String.toList_inj.1 htext, String.toList_inj.1 hrest⟩

/-- A quoted text stands in one line, whatever it holds. -/
theorem inOneLine_quoted (s : String) : InOneLine (quoted s).toList := by
  have hmark : InOneLine ['"'] := by decide
  have hinside : InOneLine (s.toList.flatMap quotedChar) :=
    inOneLine_flatMap fun c _ => (standsAs_quotedChar c).inOneLine
  rw [toList_quoted]
  exact inOneLine_append.2 ⟨hmark, inOneLine_append.2 ⟨hinside, hmark⟩⟩

end Text

/-! ## Lines of events -/

namespace Log

open Text (quoted InOneLine inOneLine_append)

namespace Event

/-- How an event is written in a log. -/
inductive Written : Event → String → Prop
  | parsed (s n) : Written (.parsed s n)
      ("TRACE snowurl::parser: parsed template template=" ++ quoted s ++ " tokens=" ++ Nat.repr n)
  | built (s url) : Written (.built s url)
      ("TRACE snowurl::builder: built url template=" ++ quoted s ++ " url=" ++ url)
  | failed (s e) : Written (.failed s e)
      ("DEBUG snowurl::builder: failed to build url template=" ++ quoted s ++
        " code=" ++ e.code.text ++ " error=" ++ e.message)

theorem written_line (e : Event) : e.Written e.line := by
  have hcases {entry : String} (h : e.Written entry) (hline : e.line.toList = entry.toList) :
      e.Written e.line := by
    rwa [String.toList_inj.1 hline]
  cases e with
  | parsed s n =>
    apply hcases (.parsed s n)
    simp [line, fields, Field.line, level, target, message, Level.text]
  | built s url =>
    apply hcases (.built s url)
    simp [line, fields, Field.line, level, target, message, Level.text]
  | failed s e =>
    apply hcases (.failed s e)
    simp [line, fields, Field.line, level, target, message, Level.text]

theorem blank_not_mem_text (c : ErrorCode) : ' ' ∉ c.text.toList := by
  cases c <;> decide

/-- Levels and targets tell the kinds of events apart. Of one kind, the template is known from its
quotation marks, and then the rest from what stands behind it. -/
theorem Written.inj {a b : Event} {entry : String} (ha : a.Written entry) (hb : b.Written entry) :
    a = b := by
  cases ha with
  | parsed s n =>
    generalize hentry : "TRACE snowurl::parser: parsed template template=" ++ quoted s ++
      " tokens=" ++ Nat.repr n = entry at hb
    have hfront := congrArg (fun text => text.toList.take 16) hentry
    cases hb with
    | parsed t m =>
      simp only [String.append_assoc, String.append_right_inj] at hentry
      obtain ⟨rfl, hnumber⟩ := Text.quoted_append_inj hentry
      rw [Nat.repr_inj.1 ((String.append_right_inj _).1 hnumber)]
    | built | failed => simp at hfront
  | built s url =>
    generalize hentry : "TRACE snowurl::builder: built url template=" ++ quoted s ++ " url=" ++
      url = entry at hb
    have hfront := congrArg (fun text => text.toList.take 16) hentry
    cases hb with
    | built t other =>
      simp only [String.append_assoc, String.append_right_inj] at hentry
      obtain ⟨rfl, hurl⟩ := Text.quoted_append_inj hentry
      rw [(String.append_right_inj _).1 hurl]
    | parsed | failed => simp at hfront
  | failed s e =>
    generalize hentry : "DEBUG snowurl::builder: failed to build url template=" ++ quoted s ++
      " code=" ++ e.code.text ++ " error=" ++ e.message = entry at hb
    have hfront := congrArg (fun text => text.toList.take 16) hentry
    cases hb with
    | failed t other =>
      simp only [String.append_assoc, String.append_right_inj] at hentry
      obtain ⟨rfl, hbehind⟩ := Text.quoted_append_inj hentry
      have hlists := congrArg String.toList ((String.append_right_inj _).1 hbehind)
      simp only [String.toList_append] at hlists
      obtain ⟨-, hmessage⟩ := eq_of_first_separator (blank_not_mem_text _) (blank_not_mem_text _) hlists
      rw [Error.eq_of_message_eq (String.toList_inj.1 (List.append_cancel_left hmessage))]
    | parsed | built => simp at hfront

/-- What a line tells last. It stands there as it is. -/
def ending : Event → String
  | .parsed _ tokens => Nat.repr tokens
  | .built _ url => url
  | .failed _ error => error.message

/-- All that stands in front of the ending is in one line. -/
theorem Written.exists_eq_append {e : Event} {entry : String} (h : e.Written entry) :
    ∃ front, entry = front ++ e.ending ∧ InOneLine front.toList ∧
      front.toList.getLast? = some '=' := by
  have haround {first last : String} (s : String) (hfirst : InOneLine first.toList)
      (hlast : InOneLine last.toList) : InOneLine (first ++ quoted s ++ last).toList := by
    rw [String.toList_append, String.toList_append]
    exact inOneLine_append.2 ⟨inOneLine_append.2 ⟨hfirst, Text.inOneLine_quoted s⟩, hlast⟩
  have hend (first : String) {last : String} (hlast : last.toList.getLast? = some '=') :
      (first ++ last).toList.getLast? = some '=' := by
    rw [String.toList_append, List.getLast?_append, hlast]
    rfl
  cases h with
  | parsed s n => exact ⟨_, rfl, haround s (by decide) (by decide), hend _ (by decide)⟩
  | built s url => exact ⟨_, rfl, haround s (by decide) (by decide), hend _ (by decide)⟩
  | failed s e =>
    have hcode : InOneLine (" code=" ++ e.code.text ++ " error=").toList := by
      cases e.code <;> decide
    have hfront : InOneLine
        "DEBUG snowurl::builder: failed to build url template=".toList := by decide
    refine ⟨_, rfl, ?_, hend _ (by decide)⟩
    simpa only [String.append_assoc] using haround s hfront hcode

/-- A line goes on in another line, or loses its end, just as its ending does. -/
theorem isLine_line_iff {e : Event} : Transcript.IsLine e.line ↔ Transcript.IsLine e.ending := by
  obtain ⟨front, hline, hfront, hlast⟩ := e.written_line.exists_eq_append
  have hfeed : '\n' ∈ e.line.toList ↔ '\n' ∈ e.ending.toList := by
    rw [hline, String.toList_append, List.mem_append]
    exact or_iff_right hfront.1
  have hreturn : e.line.toList.getLast? = some '\r' ↔ e.ending.toList.getLast? = some '\r' := by
    rw [hline, String.toList_append, List.getLast?_append, hlast]
    cases e.ending.toList.getLast? <;> simp
  constructor
  · rintro ⟨h, h'⟩
    exact ⟨mt hfeed.2 h, mt hreturn.2 h'⟩
  · rintro ⟨h, h'⟩
    exact ⟨mt hfeed.1 h, mt hreturn.1 h'⟩

end Event

end Log

end PathTemplate
