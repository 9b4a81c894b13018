-- Which texts are patterns. A pattern describes texts by characters, sets in brackets,
-- groups in parentheses with choices between them, and signs that repeat a part. It is
-- read from left to right, and what is open stands on a stack. Nothing is written with
-- braces here, neither counts nor codes of characters.
import PathTemplate.Pattern.Part

namespace PathTemplate.Pattern

structure Reading where
  switches : Switches
  /-- The names of groups so far. -/
  names : List (List Char)
  frame : Frame
  /-- What is open around it, from the inside out. -/
  around : List Frame
  deriving Repr, DecidableEq

namespace Reading

def start : Reading := ⟨.standard, [], .group (.start .standard), []⟩

/-- Closes what is open, and makes it a part of what is around it. -/
def close? (r : Reading) (innerHeight : Nat) : Option Reading :=
  match r.around with
  | [] => none
  | frame :: around => some { r with frame := frame.add (innerHeight + 1), around := around }

/-! ## Groups -/

def openGroup (r : Reading) (inside : Switches) : Reading :=
  { r with
    switches := inside, frame := .group (.start r.switches), around := r.frame :: r.around }

def closeGroup? (r : Reading) (g : Group) : Option Reading :=
  { r with switches := g.outside }.close? g.innerHeight

def isGroupName : List Char → Bool
  | [] => false
  | c :: cs =>
    (c == '_' || Text.isAlphabetic c)
      && cs.all fun c => ['_', '.', '[', ']'].contains c || Text.isAlphanumeric c

/-- Opens a group with a name. No two groups have the same name. -/
def openNamed? (r : Reading) (cs : List Char) : Option (Reading × List Char) :=
  let name := cs.takeWhile (· != '>')
  match cs.dropWhile (· != '>') with
  | [] => none
  | _ :: rest =>
    if isGroupName name && !r.names.contains name then
      some ({ r with names := name :: r.names }.openGroup r.switches, rest)
    else none

theorem openNamed?_shrinks {r next : Reading} {cs rest : List Char}
    (h : r.openNamed? cs = some (next, rest)) : rest.length ≤ cs.length := by
  have hdrop := (List.dropWhile_suffix (l := cs) (· != '>')).length_le
  unfold openNamed? at h
  dsimp only at h
  split at h
  · simp at h
  · rename_i hcs
    rw [hcs, List.length_cons] at hdrop
    split at h
    · cases h
      omega
    · simp at h

/-- Letters of switches run up to a colon or the end of their group. -/
def isLetterChar (c : Char) : Bool := c != ':' && c != ')'

/-- Reads the letters of switches. With a colon behind them they are for a group that
begins here, else for the rest of the group around them. -/
def readLetters? (r : Reading) (g : Group) (cs : List Char) : Option (Reading × List Char) :=
  let letters := cs.takeWhile isLetterChar
  if Switches.areLetters letters then
    match cs.dropWhile isLetterChar with
    | ':' :: rest => some (r.openGroup (r.switches.set letters), rest)
    | ')' :: rest =>
      if letters = [] then none
      else some ({ r with switches := r.switches.set letters, frame := .group g.addLetters }, rest)
    | _ => none
  else none

theorem readLetters?_shrinks {r next : Reading} {g : Group} {cs rest : List Char}
    (h : r.readLetters? g cs = some (next, rest)) : rest.length ≤ cs.length := by
  have hdrop := (List.dropWhile_suffix (l := cs) isLetterChar).length_le
  unfold readLetters? at h
  dsimp only at h
  split at h
  · split at h
    · rename_i hcs
      rw [hcs, List.length_cons] at hdrop
      cases h
      omega
    · rename_i hcs
      rw [hcs, List.length_cons] at hdrop
      split at h
      · simp at h
      · cases h
        omega
    · simp at h
  · simp at h

def readOpening? (r : Reading) (g : Group) (cs : List Char) : Option (Reading × List Char) :=
  match r.switches.skip cs with
  | '?' :: 'P' :: '<' :: rest => r.openNamed? rest
  | '?' :: '<' :: rest => r.openNamed? rest
  | '?' :: rest => r.readLetters? g rest
  | rest => some (r.openGroup r.switches, rest)

theorem readOpening?_shrinks {r next : Reading} {g : Group} {cs rest : List Char}
    (h : r.readOpening? g cs = some (next, rest)) : rest.length ≤ cs.length := by
  have hskip := r.switches.length_skip_le cs
  unfold readOpening? at h
  split at h
  · rename_i hcs
    have := openNamed?_shrinks h
    simp only [hcs, List.length_cons] at hskip
    omega
  · rename_i hcs
    have := openNamed?_shrinks h
    simp only [hcs, List.length_cons] at hskip
    omega
  · rename_i hcs
    have := readLetters?_shrinks h
    simp only [hcs, List.length_cons] at hskip
    omega
  · cases h
    exact hskip

/-! ## Brackets -/

/-- Opens brackets. A circumflex at the start stands for all but the set. Of bytes, that
would be pieces of characters. -/
def openBrackets? (r : Reading) (cs : List Char) : Option (Reading × List Char) :=
  let opened := { r with frame := .brackets .start, around := r.frame :: r.around }
  match r.switches.skip cs with
  | '^' :: rest => if r.switches.isUnicode then some (opened, rest) else none
  | rest => some (opened, rest)

theorem openBrackets?_shrinks {r next : Reading} {cs rest : List Char}
    (h : r.openBrackets? cs = some (next, rest)) : rest.length ≤ cs.length := by
  have hskip := r.switches.length_skip_le cs
  unfold openBrackets? at h
  dsimp only at h
  split at h
  · rename_i hcs
    simp only [hcs, List.length_cons] at hskip
    split at h
    · cases h
      omega
    · simp at h
  · cases h
    exact hskip

def bracketsStep? (r : Reading) (b : Brackets) (cs : List Char) : Option (Reading × List Char) :=
  let goOn (b : Brackets) (rest : List Char) := some ({ r with frame := .brackets b }, rest)
  match cs with
  | [] => none
  | c :: rest =>
    if b.takesAsItself c then
      if Part.isUsableInBrackets r.switches (.char c) then goOn (b.addAtStart c) rest else none
    else
      match c, rest with
      | ']', rest => (r.close? b.innerHeight).map (·, rest)
      | '[', rest =>
        match readSetName? rest with
        | some (isNegated, rest) =>
          if isSetUsable r.switches isNegated then goOn (b.add 0) rest else none
        | none => r.openBrackets? rest
      | '&', '&' :: rest => goOn b.nextOperand rest
      | '-', '-' :: rest => goOn b.nextOperand rest
      | '~', '~' :: rest => goOn b.nextOperand rest
      | _, _ =>
        match dropRange? r.switches cs with
        | some rest => goOn (b.add 0) rest
        | none => none

/-- What is left of the text is the same, whatever was made of the part. -/
theorem rest_eq_of_map {α : Type} {made : Option α} {f : α → Reading} {next : Reading}
    {left rest : List Char} (h : made.map (fun a => (f a, left)) = some (next, rest)) :
    rest = left := by
  obtain ⟨_, _, heq⟩ := Option.map_eq_some_iff.1 h
  exact (congrArg Prod.snd heq).symm

theorem bracketsStep?_shrinks {r next : Reading} {b : Brackets} {cs rest : List Char}
    (h : r.bracketsStep? b cs = some (next, rest)) : rest.length < cs.length := by
  unfold bracketsStep? at h
  dsimp only at h
  split at h
  · simp at h
  · rename_i c more
    split at h
    · split at h
      · cases h
        exact Nat.lt_succ_self _
      · simp at h
    · split at h
      · rw [rest_eq_of_map h]
        exact Nat.lt_succ_self _
      · split at h
        · rename_i hname
          have := readSetName?_shrinks hname
          split at h
          · cases h
            simp only [List.length_cons]
            omega
          · simp at h
        · exact Nat.lt_succ_of_le (openBrackets?_shrinks h)
      · cases h
        simp only [List.length_cons]
        omega
      · cases h
        simp only [List.length_cons]
        omega
      · cases h
        simp only [List.length_cons]
        omega
      · split at h
        · rename_i hrange
          cases h
          exact dropRange?_shrinks hrange
        · simp at h

/-! ## Whole patterns -/

/-- A part may be repeated as seldom as possible, which is a question mark behind the sign
that repeats it. -/
def dropLazyMark : List Char → List Char
  | '?' :: cs => cs
  | cs => cs

theorem length_dropLazyMark_le (cs : List Char) : (dropLazyMark cs).length ≤ cs.length := by
  unfold dropLazyMark
  split <;> simp

/-- Reads on in a group. An opening brace would begin a count. -/
def groupStep? (r : Reading) (g : Group) (cs : List Char) : Option (Reading × List Char) :=
  let goOn (g : Group) (rest : List Char) := ({ r with frame := .group g }, rest)
  match cs with
  | [] => none
  | '(' :: rest => r.readOpening? g rest
  | ')' :: rest => (r.closeGroup? g).map (·, rest)
  | '[' :: rest => r.openBrackets? rest
  | '|' :: rest => some (goOn g.nextChoice rest)
  | '*' :: rest => g.repeatLast?.map (goOn · (dropLazyMark rest))
  | '+' :: rest => g.repeatLast?.map (goOn · (dropLazyMark rest))
  | '?' :: rest => g.repeatLast?.map (goOn · (dropLazyMark rest))
  | '{' :: _ => none
  | cs =>
    match Part.read? r.switches cs with
    | some (part, rest) => if part.isUsable r.switches then some (goOn (g.add 0) rest) else none
    | none => none

theorem groupStep?_shrinks {r next : Reading} {g : Group} {cs rest : List Char}
    (h : r.groupStep? g cs = some (next, rest)) : rest.length < cs.length := by
  unfold groupStep? at h
  dsimp only at h
  split at h
  · simp at h
  · exact Nat.lt_succ_of_le (readOpening?_shrinks h)
  · rw [rest_eq_of_map h]
    exact Nat.lt_succ_self _
  · exact Nat.lt_succ_of_le (openBrackets?_shrinks h)
  · cases h
    exact Nat.lt_succ_self _
  · rw [rest_eq_of_map h]
    exact Nat.lt_succ_of_le (length_dropLazyMark_le _)
  · rw [rest_eq_of_map h]
    exact Nat.lt_succ_of_le (length_dropLazyMark_le _)
  · rw [rest_eq_of_map h]
    exact Nat.lt_succ_of_le (length_dropLazyMark_le _)
  · simp at h
  · split at h
    · rename_i hpart
      split at h
      · cases h
        exact Part.read?_shrinks hpart
      · simp at h
    · simp at h

def step? (r : Reading) (cs : List Char) : Option (Reading × List Char) :=
  match r.frame with
  | .group g => r.groupStep? g cs
  | .brackets b => r.bracketsStep? b cs

theorem step?_shrinks {r next : Reading} {cs rest : List Char}
    (h : r.step? cs = some (next, rest)) : rest.length < cs.length := by
  unfold step? at h
  split at h
  · exact groupStep?_shrinks h
  · exact bracketsStep?_shrinks h

def readAll? (r : Reading) (cs : List Char) : Option Reading :=
  match _hskip : r.switches.skip cs with
  | [] => some r
  | c :: more =>
    match _hstep : r.step? (c :: more) with
    | none => none
    | some (next, rest) => next.readAll? rest
termination_by cs.length
decreasing_by
  have hle := r.switches.length_skip_le cs
  rw [_hskip] at hle
  exact Nat.lt_of_lt_of_le (step?_shrinks _hstep) hle

/-- Whether nothing is open but the pattern itself, and it is not too high. -/
def isComplete (r : Reading) : Bool :=
  match r.frame, r.around with
  | .group g, [] => g.innerHeight ≤ greatestHeight
  | _, _ => false

end Reading

def isPattern (cs : List Char) : Bool := (Reading.start.readAll? cs).any Reading.isComplete

end PathTemplate.Pattern
