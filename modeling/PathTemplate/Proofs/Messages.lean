-- The messages of errors. A name stands in a message as it is, whatever it holds, and still no
-- two errors have the same message. So what the command writes about an error of the library
-- tells which one it was, and nothing else that it writes looks like that.
import Mathlib
import PathTemplate.Proofs.Endings

namespace PathTemplate

/-! ## Messages -/

theorem framed_inj {first a b last : String} : first ++ a ++ last = first ++ b ++ last ↔ a = b := by
  rw [String.append_left_inj, String.append_right_inj]

/-- The letter with which the messages of a code begin. -/
def ErrorCode.initial : ErrorCode → Char
  | .invalidDeclaration => 'i'
  | .missingParam => 'm'
  | .unknownParam => 'u'

theorem ErrorCode.initial_inj {c d : ErrorCode} (h : c.initial = d.initial) : c = d := by
  cases c <;> cases d <;> simp_all [initial]

namespace Error

theorem head?_message (e : Error) : e.message.toList.head? = some e.code.initial := by
  unfold message
  cases e <;> simp [code, ErrorCode.initial]

theorem code_eq_of_message_eq {a b : Error} (h : a.message = b.message) : a.code = b.code := by
  have hletter := a.head?_message
  rw [h, head?_message, Option.some.injEq] at hletter
  exact (ErrorCode.initial_inj hletter).symm

/-- Errors of one code differ in what stands between the fixed parts of their messages. -/
theorem eq_of_message_eq {a b : Error} (h : a.message = b.message) : a = b := by
  have hcode := code_eq_of_message_eq h
  cases a with
  | invalidDeclaration position =>
    cases b with
    | invalidDeclaration other => rw [Nat.repr_inj.1 (framed_inj.1 h)]
    | missingParam | unknownParam => cases hcode
  | missingParam name =>
    cases b with
    | missingParam other => rw [framed_inj.1 h]
    | invalidDeclaration | unknownParam => cases hcode
  | unknownParam name =>
    cases b with
    | unknownParam other => rw [framed_inj.1 h]
    | invalidDeclaration | missingParam => cases hcode

theorem message_inj {a b : Error} : a.message = b.message ↔ a = b :=
  ⟨eq_of_message_eq, fun h => h ▸ rfl⟩

end Error

namespace Command

/-! ## Lines of errors -/

theorem bracket_not_mem_text (c : ErrorCode) : ']' ∉ c.text.toList := by
  cases c <;> decide

/-- The first closing bracket of a line ends the code. What follows it is the message. -/
theorem errorLine_inj {a b : Error} : errorLine a = errorLine b ↔ a = b := by
  refine ⟨fun h => ?_, fun h => h ▸ rfl⟩
  have hline (e : Error) : (errorLine e).toList =
      "error[".toList ++ (e.code.text.toList ++ ']' :: (": " ++ e.message ++ "\n").toList) := by
    simp [errorLine]
  have hlists := congrArg String.toList h
  rw [hline, hline, List.append_cancel_left_eq] at hlists
  obtain ⟨-, hbehind⟩ := eq_of_first_separator (bracket_not_mem_text _) (bracket_not_mem_text _) hlists
  apply Error.eq_of_message_eq
  exact framed_inj.1 (String.toList_inj.1 hbehind)

/-! ## What a run writes -/

/-- Of all that is written besides the log, only the line of an error has a bracket behind its
first word. -/
theorem Ends.fails_of_errors_eq {arguments : List String} {code : Nat} {output errors : String}
    (h : Ends arguments code output errors) {e : Error} (he : errors = errorLine e) :
    ∃ request, Request.ofArguments arguments = .ok request ∧ request.Fails e := by
  have hbracket : errors.toList[5]? = some '[' := by
    rw [he]
    simp [errorLine]
  cases h with
  | helped | versioned | listed | built => cases hbracket
  | @misused usage =>
    obtain ⟨rest, hrest⟩ := usage.exists_toList_line
    simp [hrest] at hbracket
  | repeated => simp [repeatedKeyLine] at hbracket
  | failed hrequest hfails =>
    rw [errorLine_inj] at he
    exact ⟨_, hrequest, he ▸ hfails⟩

/-! ## The law -/

/-- No two errors have the same message, whatever their names hold. Nor does the command write
the same about them, even if a name goes over several lines: a run writes the line of an error
exactly if the call of the library that its arguments ask for fails with just this error. -/
theorem a_message_tells_which_error_it_is (a b : Error) :
    (a.message = b.message ↔ a = b) ∧
    (errorLine a = errorLine b ↔ a = b) ∧
    ∀ asked arguments, (run asked arguments).errors = errorLine a ↔
      ∃ request, Request.ofArguments arguments = .ok request ∧ request.Fails a := by
  refine ⟨Error.message_inj, errorLine_inj, fun asked arguments => ⟨fun h => ?_, ?_⟩⟩
  · exact (ends_run asked arguments).fails_of_errors_eq h
  · rintro ⟨request, hrequest, hfails⟩
    exact ((Ends.failed hrequest hfails).writes asked).errors_eq

-- The name of a missing value goes on like the message about an unknown key.
example : (Error.missingParam "a\": only params declared in the template are allowed").message ≠
    (Error.unknownParam "a").message := by
  decide

end Command

end PathTemplate
