-- Which events a log shows. A filter is a list of rules. A rule speaks of some events, and it
-- says how severe they have to be to be shown. Of the rules that speak of an event, the most
-- specific one decides.
--
-- A rule is written as a target, a scope in brackets, an equals sign and a level, such as
-- `parser=debug`. All parts but one may be left out.
import PathTemplate.Decimal.Positional
import PathTemplate.Log.Event
import PathTemplate.Pattern.Reading
import PathTemplate.Text.Parts
import PathTemplate.Text.Utf8

namespace PathTemplate.Log

/-! ## Rules and events -/

/-- Which of the events with its target a rule speaks of. -/
inductive Scope where
  | everywhere
  | withField (name : String)
  /-- Events inside of a span of work. The library opens no spans. -/
  | insideSpan
  deriving Repr, DecidableEq

/-- What a log shows of some events. -/
structure Rule where
  /-- The least severe level that is shown. Without a level nothing is. -/
  level : Option Level
  /-- If given, the rule speaks only of targets that begin with this text. -/
  target : Option String
  scope : Scope
  deriving Repr, DecidableEq

def Scope.contains (scope : Scope) (e : Event) : Bool :=
  match scope with
  | .everywhere => true
  | .withField name => e.hasField name
  | .insideSpan => false

/-- A field makes a scope narrower. Of two fields, the greater name counts as the
narrower scope. -/
def Scope.isNarrower : Scope → Scope → Bool
  | .withField a, .withField b => b < a
  | .withField _, .everywhere => true
  | _, _ => false

namespace Rule

def concerns (r : Rule) (e : Event) : Bool :=
  let targetFits := match r.target with
    | some start => start.toList.isPrefixOf e.target.toList
    | none => true
  targetFits && r.scope.contains e

def shows (r : Rule) (e : Event) : Bool :=
  match r.level with
  | some level => e.level.verbosity ≤ level.verbosity
  | none => false

def targetLength (r : Rule) : Nat :=
  match r.target with
  | some start => start.length
  | none => 0

/-- Whether a rule is more specific than another one that speaks of the same event:
its target is longer, or as long and its scope is narrower. -/
def isMoreSpecific (r s : Rule) : Bool :=
  s.targetLength < r.targetLength
    || (s.targetLength == r.targetLength && r.scope.isNarrower s.scope)

/-- The rule that wins when one more rule comes. Of two that are equally specific, the
later one wins. -/
def pick : Option Rule → Rule → Option Rule
  | none, r => some r
  | some best, r => if best.isMoreSpecific r then some best else some r

end Rule

/-! ## Filters -/

structure Filter where
  rules : List Rule
  deriving Repr, DecidableEq

namespace Filter

def deciding (f : Filter) (e : Event) : Option Rule :=
  (f.rules.filter (·.concerns e)).foldl Rule.pick none

/-- Whether a filter shows an event. An event of which no rule speaks is not shown. -/
def allows (f : Filter) (e : Event) : Bool :=
  match f.deciding e with
  | some r => r.shows e
  | none => false

theorem allows_single (r : Rule) (e : Event) :
    (Filter.mk [r]).allows e = (r.concerns e && r.shows e) := by
  by_cases h : r.concerns e = true <;> simp [allows, deciding, Rule.pick, h]

def lines (f : Filter) (events : List Event) : List String :=
  (events.filter f.allows).map Event.line

end Filter

/-! ## Characters of rules -/

def isTargetStart (c : Char) : Bool := c == '-' || c == ':' || c == '_' || Text.isAlphanumeric c

/-- A target runs up to a scope or a level. -/
def isTargetChar (c : Char) : Bool := c != '[' && c != '='

/-- The name of a span runs up to its field or the end of the scope. -/
def isSpanChar (c : Char) : Bool := c != ']' && c != '{'

/-! ## Outlines of rules -/

/-- The parts of a rule, as texts. A part that is left out is empty, or there is none. -/
structure Outline where
  target : List Char
  /-- The brackets: a name of a span, and a field in braces. -/
  scope : Option (List Char × Option (List Char))
  level : Option (List Char)
  deriving Repr, DecidableEq

namespace Outline

/-- Takes brackets apart behind the opening one, and gives what follows the closing one.
A field is not empty. -/
def brackets? (cs : List Char) : Option ((List Char × Option (List Char)) × List Char) :=
  let span := cs.takeWhile isSpanChar
  match cs.dropWhile isSpanChar with
  | ']' :: rest => some ((span, none), rest)
  | _ :: rest =>
    let field := rest.takeWhile (· != '}')
    match rest.dropWhile (· != '}') with
    | _ :: ']' :: behind => if field = [] then none else some ((span, some field), behind)
    | _ => none
  | [] => none

/-- Takes a rule apart, which has no white space at its ends. -/
def ofText? (cs : List Char) : Option Outline :=
  let target := cs.takeWhile isTargetChar
  let starts := match target with
    | c :: _ => isTargetStart c
    | [] => cs.head? == some '['
  if starts then
    match cs.dropWhile isTargetChar with
    | [] => some ⟨target, none, none⟩
    | '[' :: rest =>
      match brackets? rest with
      | some (scope, []) => some ⟨target, some scope, none⟩
      | some (scope, '=' :: level) => some ⟨target, some scope, some level⟩
      | _ => none
    | _ :: level => some ⟨target, none, some level⟩
  else none

/-! ## Places -/

def spanStart (o : Outline) : Nat := Text.byteLength o.target + 1

def levelStart (o : Outline) (length : Nat) : Nat := length - Text.byteLength (o.level.getD [])

end Outline

/-! ## The text of a level -/

namespace Level

/-- The level of a number, from errors alone up to all. Zero stands for no level. -/
def ofVerbosity? : Nat → Option (Option Level)
  | 0 => some none
  | 1 => some (some .error)
  | 2 => some (some .warn)
  | 3 => some (some .info)
  | 4 => some (some .debug)
  | 5 => some (some .trace)
  | _ => none

/-- Reads a number in decimal digits. There may be a plus sign in front. -/
def numberOfText? (cs : List Char) : Option Nat :=
  let digits := match cs with
    | '+' :: rest => rest
    | _ => cs
  if digits ≠ [] ∧ digits.all Char.isDigit then some (Decimal.ofDigits digits) else none

/-- Reads the word for a level in capital or small letters. The word `off` stands for no
level. -/
def ofWord? (cs : List Char) : Option (Option Level) :=
  match String.ofList (cs.map Char.toLower) with
  | "off" => some none
  | "error" => some (some .error)
  | "warn" => some (some .warn)
  | "info" => some (some .info)
  | "debug" => some (some .debug)
  | "trace" => some (some .trace)
  | _ => none

def ofText? (cs : List Char) : Option (Option Level) :=
  match numberOfText? cs with
  | some n => ofVerbosity? n
  | none => ofWord? cs

end Level

/-! ## The text of a scope -/

/-- Whether a text can be the value of a field. A value is a number, or a pattern that
describes it. -/
def isFieldValue (cs : List Char) : Bool := Decimal.isNumeral cs || Pattern.isPattern cs

/-- Reads the field of a scope, with or without a span. A field alone speaks of events.
With a span or a value, it can only speak of spans. What stands behind a second equals
sign means nothing. -/
def Scope.ofField? (hasSpan : Bool) (cs : List Char) : Option Scope :=
  match Text.partsAt '=' cs with
  | _ :: value :: _ => if isFieldValue value then some .insideSpan else none
  | _ => some (if hasSpan then .insideSpan else .withField (String.ofList cs))

/-! ## The text of a rule -/

namespace Rule

def targetOf (cs : List Char) : Option String := if cs = [] then none else some (String.ofList cs)

/-- Reads a rule without brackets and without a level, which is a level or a target. -/
def ofWord (cs : List Char) : Rule :=
  match Level.ofText? cs with
  | some level => ⟨level, none, .everywhere⟩
  | none => ⟨some .trace, targetOf cs, .everywhere⟩

def scopeOf? (o : Outline) (cs : List Char) : Option Scope :=
  match o.scope with
  | none => some .everywhere
  | some (span, field) =>
    let spanEnd := o.spanStart + Text.byteLength span
    match Text.between? o.spanStart spanEnd cs, field with
    | none, _ => none
    | some _, none => some .insideSpan
    | some _, some field =>
      (Text.between? (spanEnd + 1) (spanEnd + 1 + Text.byteLength field) cs).bind
        (Scope.ofField? (span != []))

/-- Reads the level of a rule at its place. Without a level, or with an empty one, a rule
shows all. -/
def levelOf? (o : Outline) (length : Nat) (cs : List Char) : Option (Option Level) :=
  match o.level with
  | none => some (some .trace)
  | some _ =>
    match Text.dropBytes? (o.levelStart length) cs with
    | none => none
    | some [] => some (some .trace)
    | some text => Level.ofText? text

/-- Reads a rule. The places of its parts are counted without the white space in front,
but the parts are taken from the whole text. So white space in front moves them. Wide
white space can move a place into the middle of a character. Nothing can be taken from
there, so such a rule cannot be read. -/
def ofText? (cs : List Char) : Option Rule :=
  let inner := Text.trimmed cs
  match Outline.ofText? inner with
  | none => none
  | some ⟨_, none, none⟩ => some (ofWord cs)
  | some o =>
    match Text.between? 0 (Text.byteLength o.target) cs, scopeOf? o cs,
      levelOf? o (Text.byteLength inner) cs with
    | some target, some scope, some level => some ⟨level, targetOf target, scope⟩
    | _, _, _ => none

end Rule

/-! ## The text of a filter -/

namespace Filter

/-- Reads a filter. Empty rules are passed over, but a rule that cannot be read makes the
filter unreadable. -/
def ofText? (text : String) : Option Filter :=
  (((Text.partsAt ',' text.toList).filter (· ≠ [])).mapM Rule.ofText?).map Filter.mk

/-- The filter when none is asked for: warnings, or with more words also what helps
to find an error. -/
def standard (verbose : Bool) : Filter :=
  ⟨[⟨some (if verbose then .debug else .warn), some "snowurl", .everywhere⟩]⟩

end Filter

end PathTemplate.Log
