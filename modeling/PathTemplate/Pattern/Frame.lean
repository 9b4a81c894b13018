-- What is open at a place of a pattern: switches, groups, and sets in brackets. Switches are
-- letters that say how the pattern behind them is read, up to the end of their group. Groups
-- and brackets remember how high their parts are, for a pattern may not be nested too deep.
import PathTemplate.Text.Classes

namespace PathTemplate.Pattern

/-! ## White space and comments -/

/-- Passes over white space and comments. A comment begins with a number sign and ends
with its line. -/
def dropSpace (inComment : Bool) : List Char → List Char
  | [] => []
  | c :: cs =>
    if inComment then dropSpace (c != '\n') cs
    else if Text.isBlank c then dropSpace false cs
    else if c = '#' then dropSpace true cs
    else c :: cs

theorem length_dropSpace_le (inComment : Bool) (cs : List Char) :
    (dropSpace inComment cs).length ≤ cs.length := by
  induction cs generalizing inComment with
  | nil => simp [dropSpace]
  | cons c cs ih =>
    unfold dropSpace
    split
    · exact Nat.le_succ_of_le (ih _)
    · split
      · exact Nat.le_succ_of_le (ih _)
      · split
        · exact Nat.le_succ_of_le (ih _)
        · exact Nat.le_refl _

/-! ## Switches -/

structure Switches where
  /-- Capital and small letters are the same. -/
  ignoresCase : Bool
  /-- The parts stand for characters and not for single bytes. -/
  isUnicode : Bool
  /-- White space and comments between the parts mean nothing. -/
  isSpaced : Bool
  deriving Repr, DecidableEq

namespace Switches

def standard : Switches := ⟨false, true, false⟩

def skip (s : Switches) (cs : List Char) : List Char := if s.isSpaced then dropSpace false cs else cs

theorem length_skip_le (s : Switches) (cs : List Char) : (s.skip cs).length ≤ cs.length := by
  unfold skip
  split
  · exact length_dropSpace_le false cs
  · exact Nat.le_refl _

/-- The character behind the next one, as far as it can be seen from here: only the sign
of a comment is passed over, and not the comment. -/
def glance (s : Switches) (cs : List Char) : Option Char :=
  if s.isSpaced then
    match cs.dropWhile Text.isBlank with
    | '#' :: rest => (rest.dropWhile Text.isBlank).head?
    | rest => rest.head?
  else cs.head?

/-- The letters of all switches. Four of them do not change how a pattern is read. -/
def letters : List Char := ['i', 'u', 'x', 'm', 's', 'U', 'R']

/-- Whether a text sets switches. No letter stands twice, and a dash has a letter
behind it. -/
def areLetters (cs : List Char) : Bool :=
  cs.all (fun c => c == '-' || letters.contains c) && cs.eraseDups == cs && cs.getLast? != some '-'

/-- Sets the switches of some letters. Those behind a dash are turned off. -/
def set (s : Switches) (cs : List Char) : Switches :=
  let on := cs.takeWhile (· != '-')
  let off := cs.dropWhile (· != '-')
  let value (old : Bool) (letter : Char) := (old || on.contains letter) && !off.contains letter
  ⟨value s.ignoresCase 'i', value s.isUnicode 'u', value s.isSpaced 'x'⟩

end Switches

/-! ## Heights -/

/-- The height of some parts side by side. One part alone adds nothing. -/
def heightOf : List Nat → Nat
  | [] => 0
  | [height] => height
  | heights => heights.foldr max 0 + 1

def greatestHeight : Nat := 250

/-! ## Groups -/

structure Group where
  outside : Switches
  /-- The heights of the choices in front of the one that is read. -/
  choices : List Nat
  /-- The heights of the parts of that choice, from the last one on. -/
  parts : List Nat
  isRepeatable : Bool
  deriving Repr, DecidableEq

namespace Group

def start (outside : Switches) : Group := ⟨outside, [], [], false⟩

def add (g : Group) (height : Nat) : Group :=
  { g with parts := height :: g.parts, isRepeatable := true }

/-- Adds letters that set switches. They take a place, but cannot be repeated. -/
def addLetters (g : Group) : Group := { g with parts := 0 :: g.parts, isRepeatable := false }

def nextChoice (g : Group) : Group :=
  { g with choices := heightOf g.parts :: g.choices, parts := [], isRepeatable := false }

def repeatLast? (g : Group) : Option Group :=
  match g.parts with
  | height :: parts =>
    if g.isRepeatable then some { g with parts := (height + 1) :: parts } else none
  | [] => none

def innerHeight (g : Group) : Nat := heightOf (heightOf g.parts :: g.choices)

end Group

/-! ## Brackets -/

structure Brackets where
  /-- The height of what stands in front of the last operator. -/
  left : Option Nat
  /-- The heights of the parts behind it. -/
  parts : List Nat
  /-- Whether there were only dashes so far. -/
  isFresh : Bool
  deriving Repr, DecidableEq

namespace Brackets

def start : Brackets := ⟨none, [], true⟩

def add (b : Brackets) (height : Nat) : Brackets :=
  { b with parts := height :: b.parts, isFresh := false }

/-- Whether a character stands for itself, which it would not do later on. A dash does
so at the start, and a closing bracket right behind the opening one. -/
def takesAsItself (b : Brackets) (c : Char) : Bool :=
  b.isFresh && (c == '-' || (c == ']' && b.parts.isEmpty))

/-- Adds a character that stands for itself at the start. -/
def addAtStart (b : Brackets) (c : Char) : Brackets :=
  { b with parts := 0 :: b.parts, isFresh := c == '-' }

def innerHeight (b : Brackets) : Nat :=
  match b.left with
  | none => heightOf b.parts
  | some left => max left (heightOf b.parts) + 1

def nextOperand (b : Brackets) : Brackets := ⟨some b.innerHeight, [], false⟩

end Brackets

/-! ## Frames -/

inductive Frame where
  | group (g : Group)
  | brackets (b : Brackets)
  deriving Repr, DecidableEq

def Frame.add (f : Frame) (height : Nat) : Frame :=
  match f with
  | .group g => .group (g.add height)
  | .brackets b => .brackets (b.add height)

end PathTemplate.Pattern
