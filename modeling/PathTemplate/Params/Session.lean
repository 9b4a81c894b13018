-- A run of changes to a set of params, with a second set laid aside.
import PathTemplate.Params

namespace PathTemplate.Params

/-- The params at hand and the params laid aside. -/
structure Session where
  current : Params
  saved : Params

inductive Step where
  | clear
  | insert (key : String) (value : Value)
  | insertMany (entries : List (String × Value))
  | ofList (entries : List (String × Value))
  | ofArray (entries : Array (String × Value))
  | save
  /-- Takes what was laid aside, and lays aside what was at hand. -/
  | swap

namespace Session

def start : Session := ⟨empty, empty⟩

def apply (s : Session) : Step → Session
  | .clear => { s with current := empty }
  | .insert key value => { s with current := s.current.insert key value }
  | .insertMany entries => { s with current := s.current.insertMany entries }
  | .ofList entries => { s with current := .ofList entries }
  | .ofArray entries => { s with current := .ofArray entries }
  | .save => { s with saved := s.current }
  | .swap => ⟨s.saved, s.current⟩

def run (steps : List Step) : Session := steps.foldl apply start

end Session

end PathTemplate.Params
