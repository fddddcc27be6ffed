/-! Events of a run that handlers can be registered for. -/

set_option autoImplicit false

namespace TapeLang

inductive Event where
  | programStart
  | beforeStep
  | programEnd
  | onError
  deriving DecidableEq, Repr

namespace Event

def name : Event → String
  | programStart => "program_start"
  | beforeStep => "before_step"
  | programEnd => "program_end"
  | onError => "on_error"

def all : List Event := [programStart, beforeStep, programEnd, onError]

def ofName? (name : String) : Option Event := all.find? (·.name == name)

end Event

end TapeLang
