-- A template is read from left to right. A colon with a name after it is a
-- placeholder, and the text up to the next colon is a literal. A colon
-- without a name is an error, and the first such colon is reported.
import PathTemplate.Error
import PathTemplate.Text.Utf8
import PathTemplate.Token

namespace PathTemplate

open Text (byteLength)

/-- A template that was read without an error. -/
structure Template where
  source : String
  tokens : List Token
  deriving Repr, DecidableEq

namespace Template

theorem length_dropWhile_lt (p : Char → Bool) (c : Char) (cs : List Char) :
    (cs.dropWhile p).length < (c :: cs).length :=
  Nat.lt_succ_of_le (List.dropWhile_sublist p).length_le

/-- The tokens of `cs`, where `cs` is what follows the first `offset` bytes
of a template. -/
def tokensFrom (offset : Nat) : List Char → Except Error (List Token)
  | [] => .ok []
  | c :: cs =>
    if c = ':' then
      let name := cs.takeWhile isNameChar
      if name = [] then
        .error (.invalidDeclaration offset)
      else
        (tokensFrom (offset + 1 + byteLength name) (cs.dropWhile isNameChar)).map
          (.placeholder (String.ofList name) :: ·)
    else
      let text := c :: cs.takeWhile isLiteralChar
      (tokensFrom (offset + byteLength text) (cs.dropWhile isLiteralChar)).map
        (.literal (String.ofList text) :: ·)
termination_by cs => cs.length
decreasing_by all_goals exact length_dropWhile_lt _ _ _

def parse (source : String) : Except Error Template :=
  (tokensFrom 0 source.toList).map (⟨source, ·⟩)

/-- The names of the placeholders, each once, in the order in which the
template first holds them. -/
def names (t : Template) : List String := (t.tokens.filterMap Token.name?).eraseDups

/-! ## How a template is read -/

theorem tokensFrom_nil (offset : Nat) : tokensFrom offset [] = .ok [] := by
  simp [tokensFrom]

/-- A colon without a name is reported at its own place. -/
theorem tokensFrom_colon_of_no_name (offset : Nat) {cs : List Char}
    (h : cs.takeWhile isNameChar = []) :
    tokensFrom offset (':' :: cs) = .error (.invalidDeclaration offset) := by
  simp [tokensFrom, h]

/-- A name goes on as long as it can. -/
theorem tokensFrom_colon (offset : Nat) {cs : List Char} (h : cs.takeWhile isNameChar ≠ []) :
    tokensFrom offset (':' :: cs) =
      (tokensFrom (offset + 1 + byteLength (cs.takeWhile isNameChar))
        (cs.dropWhile isNameChar)).map
        (.placeholder (String.ofList (cs.takeWhile isNameChar)) :: ·) := by
  simp [tokensFrom, h]

/-- A literal goes on up to the next colon. -/
theorem tokensFrom_of_ne_colon (offset : Nat) {c : Char} (cs : List Char) (h : c ≠ ':') :
    tokensFrom offset (c :: cs) =
      (tokensFrom (offset + byteLength (c :: cs.takeWhile isLiteralChar))
        (cs.dropWhile isLiteralChar)).map
        (.literal (String.ofList (c :: cs.takeWhile isLiteralChar)) :: ·) := by
  simp [tokensFrom, h]

end Template

end PathTemplate
