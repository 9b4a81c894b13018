-- The smallest parts of a pattern: characters, known sets of them, and places between
-- them. What a part may stand for is limited. Sets and cases are known for ASCII only,
-- and no part may stand for a piece of a character. In brackets there are also ranges
-- of characters and sets with a name.
import PathTemplate.Pattern.Frame

namespace PathTemplate.Pattern

/-! ## Parts -/

inductive Part where
  | char (c : Char)
  /-- A character that is written as two digits. It may be meant as a byte. -/
  | byte (c : Char)
  | any
  /-- The digits, the white space or the characters of words, or all but these. -/
  | set (isNegated : Bool)
  | edge
  | wordEdge
  deriving Repr, DecidableEq

namespace Part

/-- Whether a part can be used between other parts. -/
def isUsable (s : Switches) : Part → Bool
  | .char _ => !(s.isUnicode && s.ignoresCase)
  | .byte c => if s.isUnicode then !s.ignoresCase else c.toNat < 0x80
  | .any => s.isUnicode
  | .set isNegated => !s.isUnicode && !isNegated
  | .edge => true
  | .wordEdge => !s.isUnicode

/-- Whether a part can be used in brackets. There, no part stands for a place. -/
def isUsableInBrackets (s : Switches) : Part → Bool
  | .char c => if s.isUnicode then !s.ignoresCase else c.toNat < 0x80
  | .byte c => if s.isUnicode then !s.ignoresCase else c.toNat < 0x80
  | .set isNegated => !s.isUnicode && !isNegated
  | _ => false

def char? : Part → Option Char
  | .char c => some c
  | .byte c => some c
  | _ => none

/-! ## Codes of characters -/

def hexDigit? (c : Char) : Option Nat :=
  if c.isDigit then some (c.toNat - 0x30)
  else if 'a' ≤ c ∧ c ≤ 'f' then some (c.toNat - 0x61 + 10)
  else if 'A' ≤ c ∧ c ≤ 'F' then some (c.toNat - 0x41 + 10)
  else none

def readCode? (s : Switches) : Nat → Nat → List Char → Option (Char × List Char)
  | 0, code, cs => if code.isValidChar then some (Char.ofNat code, cs) else none
  | count + 1, code, cs =>
    match s.skip cs with
    | [] => none
    | c :: rest =>
      match hexDigit? c with
      | some digit => readCode? s count (16 * code + digit) rest
      | none => none

theorem readCode?_shrinks {s : Switches} {count code : Nat} {cs rest : List Char} {c : Char}
    (h : readCode? s count code cs = some (c, rest)) : rest.length ≤ cs.length := by
  induction count generalizing code cs with
  | zero =>
    unfold readCode? at h
    split at h
    · simp_all
    · simp at h
  | succ count ih =>
    have hskip := s.length_skip_le cs
    unfold readCode? at h
    split at h
    · simp at h
    · rename_i d more hmore
      rw [hmore, List.length_cons] at hskip
      split at h
      · have := ih h
        omega
      · simp at h

/-! ## The text of a part -/

/-- The character that a backslash and a character stand for. A sign stands for itself,
and some letters for control characters. -/
def escapedChar? : Char → Option Char
  | 'a' => some '\x07'
  | 'f' => some '\x0c'
  | 'n' => some '\n'
  | 'r' => some '\r'
  | 't' => some '\t'
  | 'v' => some '\x0b'
  | c => if c.toNat < 0x80 && !c.isAlphanum then some c else none

def ofEscape? (c : Char) : Option Part :=
  if ['d', 's', 'w'].contains c then some (.set false)
  else if ['D', 'S', 'W'].contains c then some (.set true)
  else if ['A', 'z'].contains c then some .edge
  else if ['b', 'B', '<', '>'].contains c then some .wordEdge
  else (escapedChar? c).map .char

def readEscape? (s : Switches) : List Char → Option (Part × List Char)
  | [] => none
  | 'x' :: cs => (readCode? s 2 0 cs).map fun (c, rest) => (.byte c, rest)
  | 'u' :: cs => (readCode? s 4 0 cs).map fun (c, rest) => (.char c, rest)
  | 'U' :: cs => (readCode? s 8 0 cs).map fun (c, rest) => (.char c, rest)
  | c :: cs => (ofEscape? c).map (·, cs)

/-- Reads a part in brackets, where all but a backslash stands for itself. -/
def readPlain? (s : Switches) : List Char → Option (Part × List Char)
  | [] => none
  | '\\' :: cs => readEscape? s cs
  | c :: cs => some (.char c, cs)

theorem readEscape?_shrinks {s : Switches} {cs rest : List Char} {part : Part}
    (h : readEscape? s cs = some (part, rest)) : rest.length < cs.length := by
  unfold readEscape? at h
  split at h
  case h_1 => simp at h
  case h_5 =>
    obtain ⟨_, _, heq⟩ := Option.map_eq_some_iff.1 h
    cases heq
    exact Nat.lt_succ_self _
  all_goals
    obtain ⟨_, hcode, heq⟩ := Option.map_eq_some_iff.1 h
    cases heq
    exact Nat.lt_succ_of_le (readCode?_shrinks hcode)

theorem readPlain?_shrinks {s : Switches} {cs rest : List Char} {part : Part}
    (h : readPlain? s cs = some (part, rest)) : rest.length < cs.length := by
  unfold readPlain? at h
  split at h
  · simp at h
  · exact Nat.lt_succ_of_lt (readEscape?_shrinks h)
  · cases h
    exact Nat.lt_succ_self _

def read? (s : Switches) : List Char → Option (Part × List Char)
  | '.' :: cs => some (.any, cs)
  | '^' :: cs => some (.edge, cs)
  | '$' :: cs => some (.edge, cs)
  | cs => readPlain? s cs

theorem read?_shrinks {s : Switches} {cs rest : List Char} {part : Part}
    (h : read? s cs = some (part, rest)) : rest.length < cs.length := by
  unfold read? at h
  split at h
  · cases h
    exact Nat.lt_succ_self _
  · cases h
    exact Nat.lt_succ_self _
  · cases h
    exact Nat.lt_succ_self _
  · exact readPlain?_shrinks h

end Part

/-! ## Sets with a name -/

def setNames : List String := [
  "alnum", "alpha", "ascii", "blank", "cntrl", "digit", "graph", "lower", "print", "punct",
  "space", "upper", "word", "xdigit"]

/-- Reads the name of a set up to a colon and a closing bracket, and gives what is left. -/
def dropSetName? (cs : List Char) : Option (List Char) :=
  match cs.dropWhile (· != ':') with
  | ':' :: ']' :: rest =>
    if setNames.contains (String.ofList (cs.takeWhile (· != ':'))) then some rest else none
  | _ => none

theorem dropSetName?_shrinks {cs rest : List Char} (h : dropSetName? cs = some rest) :
    rest.length < cs.length := by
  have hdrop := (List.dropWhile_suffix (l := cs) (· != ':')).length_le
  unfold dropSetName? at h
  split at h
  · rename_i hcs
    simp only [hcs, List.length_cons] at hdrop
    split at h
    · cases h
      omega
    · simp at h
  · simp at h

/-- Reads the name of a set in its own pair of brackets, behind the opening one. Between
the brackets there is a pair of colons. A circumflex in front of the name stands for all
but the set. -/
def readSetName? : List Char → Option (Bool × List Char)
  | ':' :: '^' :: cs => (dropSetName? cs).map (true, ·)
  | ':' :: cs => (dropSetName? cs).map (false, ·)
  | _ => none

theorem readSetName?_shrinks {isNegated : Bool} {cs rest : List Char}
    (h : readSetName? cs = some (isNegated, rest)) : rest.length < cs.length := by
  unfold readSetName? at h
  split at h
  · obtain ⟨_, hname, heq⟩ := Option.map_eq_some_iff.1 h
    cases heq
    exact Nat.lt_succ_of_lt (Nat.lt_succ_of_lt (dropSetName?_shrinks hname))
  · obtain ⟨_, hname, heq⟩ := Option.map_eq_some_iff.1 h
    cases heq
    exact Nat.lt_succ_of_lt (dropSetName?_shrinks hname)
  · simp at h

/-- Whether the set of a name can be used. Like other parts, it may not stand for pieces
of characters. -/
def isSetUsable (s : Switches) (isNegated : Bool) : Bool :=
  if s.isUnicode then !s.ignoresCase else !isNegated

/-! ## Ranges -/

/-- Reads a part in brackets, or a range from one character up to another one, and gives
what is left. A dash in front of a dash or a closing bracket makes no range. -/
def dropRange? (s : Switches) (cs : List Char) : Option (List Char) :=
  match Part.readPlain? s cs with
  | none => none
  | some (first, behind) =>
    if first.isUsableInBrackets s then
      match s.skip behind with
      | '-' :: rest =>
        if [some ']', some '-'].contains (s.glance rest) then some ('-' :: rest)
        else
          match Part.readPlain? s (s.skip rest) with
          | none => none
          | some (last, rest) =>
            match first.char?, last.char? with
            | some a, some b =>
              if last.isUsableInBrackets s ∧ a ≤ b then some rest else none
            | _, _ => none
      | rest => some rest
    else none

theorem dropRange?_shrinks {s : Switches} {cs rest : List Char}
    (h : dropRange? s cs = some rest) : rest.length < cs.length := by
  unfold dropRange? at h
  split at h
  · simp at h
  · rename_i first behind hfirst
    have hlt := Part.readPlain?_shrinks hfirst
    have hskip := s.length_skip_le behind
    split at h
    · split at h
      · rename_i more hmore
        rw [hmore, List.length_cons] at hskip
        split at h
        · cases h
          simp only [List.length_cons]
          omega
        · split at h
          · simp at h
          · rename_i last left hlast
            have hltLast := Part.readPlain?_shrinks hlast
            have hskipLast := s.length_skip_le more
            split at h
            · split at h
              · cases h
                omega
              · simp at h
            · simp at h
      · cases h
        omega
    · simp at h

end PathTemplate.Pattern
