-- A path is built from a template and params. Each placeholder needs a value,
-- and each param needs a placeholder. A value is copied as it is.
import PathTemplate.Params
import PathTemplate.Template

namespace PathTemplate

namespace Params

def resolve (p : Params) (name : String) : Except Error Value :=
  match p.get? name with
  | some value => if value.isAbsent then .error (.missingParam name) else .ok value
  | none => .error (.missingParam name)

/-- The first key, in key order, that is not among the used ones. -/
def unusedKey? (p : Params) (used : List String) : Option String :=
  p.keys.find? fun key => !used.contains key

end Params

/-! ## Drafts -/

structure Draft where
  path : String
  /-- The keys whose values stand in the path. -/
  used : List String

namespace Draft

def empty : Draft := ⟨"", []⟩

/-- The draft with one more token. The key of a placeholder is used from then on. -/
def add (p : Params) (d : Draft) : Token → Except Error Draft
  | .literal text => .ok { d with path := d.path ++ text }
  | .placeholder name =>
    match p.resolve name with
    | .ok value => .ok ⟨d.path ++ value.text, name :: d.used⟩
    | .error e => .error e

def addAll (p : Params) (d : Draft) : List Token → Except Error Draft
  | [] => .ok d
  | token :: rest =>
    match d.add p token with
    | .ok next => addAll p next rest
    | .error e => .error e

end Draft

/-! ## Paths -/

/-- Builds the path. A missing value is reported before an unknown key. -/
def Template.build (t : Template) (p : Params) : Except Error String :=
  match Draft.empty.addAll p t.tokens with
  | .error e => .error e
  | .ok draft =>
    match p.unusedKey? draft.used with
    | some key => .error (.unknownParam key)
    | none => .ok draft.path

def build (source : String) (p : Params) : Except Error String :=
  match Template.parse source with
  | .ok t => t.build p
  | .error e => .error e

end PathTemplate
