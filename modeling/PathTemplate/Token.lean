-- The pieces of a template: text that stands for itself, and placeholders
-- that stand for a value.

namespace PathTemplate

/-! ## Characters -/

/-- The characters of a name are the ASCII letters and digits and the
underscore. -/
def isNameChar (c : Char) : Bool := c.isAlphanum || c == '_'

/-- A literal runs up to the next colon, so it holds any other character. -/
def isLiteralChar (c : Char) : Bool := c != ':'

/-- A colon never stands in a name. -/
@[simp] theorem isNameChar_colon : isNameChar ':' = false := rfl

@[simp] theorem isLiteralChar_colon : isLiteralChar ':' = false := rfl

theorem isLiteralChar_of_isNameChar {c : Char} (h : isNameChar c = true) :
    isLiteralChar c = true := by
  by_cases hc : c = ':'
  · simp [hc] at h
  · simpa [isLiteralChar] using hc

/-! ## Tokens -/

inductive Token where
  | literal (text : String)
  /-- The place of the value with this name. -/
  | placeholder (name : String)
  deriving Repr, DecidableEq

namespace Token

def name? : Token → Option String
  | .literal _ => none
  | .placeholder name => some name

def written : Token → List Char
  | .literal text => text.toList
  | .placeholder name => ':' :: name.toList

def render (tokens : List Token) : String := String.ofList (tokens.flatMap written)

@[simp] theorem toList_render (tokens : List Token) :
    (render tokens).toList = tokens.flatMap written := String.toList_ofList

end Token

end PathTemplate
