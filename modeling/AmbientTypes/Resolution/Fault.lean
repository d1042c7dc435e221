import AmbientTypes.Registry.Source
import AmbientTypes.Resolution.Wave

namespace AmbientTypes.Resolution

inductive Fault where
  | emptyTag
  | size (fault : SizeFault)
  | registry (fault : Registry.Fault)
  | declaration (fault : Declaration.Fault)

namespace Fault

def message : Fault → String
  | emptyTag => "builtin module tag cannot be empty"
  | size fault => fault.message
  | registry fault => fault.message
  | declaration fault => fault.message

def kind : Fault → String
  | emptyTag => "ValidationError"
  | size _ => "ValueError"
  | registry fault => fault.kind
  | declaration fault => fault.kind

/-- Whether the caller gave what it must not give; all other faults cost one package only. -/
def isContract : Fault → Bool
  | emptyTag | registry .emptyName | declaration .emptyName => true
  | _ => false

end Fault

/-- Documents, or the fault of the caller. -/
abbrev Outcome := Except Fault (List Document)

/-- The documents of several loads in their order; the first fault stands for all. -/
def gather (outcomes : List Outcome) : Outcome := (outcomes.mapM id).map List.flatten

end AmbientTypes.Resolution
