-- Text for a terminal. Control sequences set the colours of a terminal, move its
-- cursor or change the title of its window. They begin with the escape character.
-- An output that shows no colours leaves them out, and with them single control
-- characters other than tabs and ends of lines and pages.
import PathTemplate.Text.Utf8

namespace PathTemplate.Text

/-- A text that stands out on a terminal: control sequences around it switch bold
letters on and off. -/
def highlighted (s : String) : String := "\x1b[1m" ++ s ++ "\x1b[0m"

/-! ## Control sequences -/

/-- Where in a control sequence a character stands. -/
inductive Mode where
  | text
  | escape
  | intermediate
  /-- In a control sequence, up to its final letter. -/
  | control
  | title
  | device
  | deviceNumbers
  | deviceMarks
  | string
  deriving Repr, DecidableEq

def isSpacing (c : Char) : Bool := c == '\t' || c == '\n' || c == '\x0c' || c == '\r'

/-- What is shown outside of control sequences: all but control characters, and the
spacing ones of those. -/
def isVisible (c : Char) : Bool := isSpacing c || (' ' ≤ c && c != '\x7f')

/-- A string ends at the byte 9C. That byte is found inside of other characters as
well, and those end a string too. -/
def endsString (c : Char) : Bool := (bytesOf [c]).contains 0x9c

namespace Mode

/-- Whether a character is shown in a mode. The first parts of a sequence let spacing
through. -/
def shows (mode : Mode) (c : Char) : Bool :=
  match mode with
  | .text => isVisible c
  | .escape | .intermediate | .control => isSpacing c
  | .title | .device | .deviceNumbers | .deviceMarks | .string => false

/-- The mode behind a character. In every mode an escape character begins a new
sequence, and cancel and substitute end the sequence. -/
def next (mode : Mode) (c : Char) : Mode :=
  if c = '\x1b' then .escape
  else if c = '\x18' ∨ c = '\x1a' then .text
  else match mode with
    | .text => .text
    | .escape =>
      if c < ' ' ∨ '\x7f' ≤ c then .escape
      else if c < '0' then .intermediate
      else if c = '[' then .control
      else if c = ']' then .title
      else if c = 'P' then .device
      else if c = 'X' ∨ c = '^' ∨ c = '_' then .string
      else .text
    | .intermediate => if '0' ≤ c ∧ c < '\x7f' then .text else .intermediate
    | .control => if '@' ≤ c ∧ c < '\x7f' then .text else .control
    | .title => if c = '\x07' then .text else .title
    | .device =>
      if c < ' ' ∨ '\x7f' ≤ c then .device
      else if c < '0' then .deviceMarks
      else if c < '@' then .deviceNumbers
      else .string
    | .deviceNumbers =>
      if c < ' ' ∨ '\x7f' ≤ c then .deviceNumbers
      else if c < '0' then .deviceMarks
      else if c < '<' then .deviceNumbers
      else .string
    | .deviceMarks => if '0' ≤ c ∧ c < '\x7f' then .string else .deviceMarks
    | .string => if endsString c then .text else .string

end Mode

/-! ## Leaving control sequences out -/

/-- A text is read from left to right. Spacing inside of a sequence interrupts it:
what follows is shown, and the sequence goes on at the next control character. -/
structure Scan where
  mode : Mode
  /-- Whether the character before was shown. -/
  isShowing : Bool

namespace Scan

def start : Scan := ⟨.text, false⟩

def shows (s : Scan) (c : Char) : Bool := if s.isShowing then isVisible c else s.mode.shows c

/-- Behind a character. A shown character that is not ASCII ends an interrupted
sequence for good. -/
def next (s : Scan) (c : Char) : Scan :=
  if s.isShowing && isVisible c then ⟨if '\x7f' < c then .text else s.mode, true⟩
  else ⟨s.mode.next c, s.shows c⟩

def shown (s : Scan) : List Char → List Char
  | [] => []
  | c :: cs => if s.shows c then c :: (s.next c).shown cs else (s.next c).shown cs

end Scan

/-- A text without its control sequences. -/
def plain (s : String) : String := String.ofList (Scan.start.shown s.toList)

end PathTemplate.Text
