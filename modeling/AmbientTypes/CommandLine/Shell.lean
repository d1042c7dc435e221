import AmbientTypes.FileTree
import AmbientTypes.Logging.Setup
import AmbientTypes.Network.Fetch

namespace AmbientTypes.CommandLine

structure Shell (m : Type → Type) where
  place : Location
  environment : Settings.Environment
  network : Network
  /-- Sets the log up; more is logged when verbose. -/
  configure : Bool → Except Logging.SetupFault Unit
  input : m (List UInt8)
  read : String → m (Except FileFault (List UInt8))
  makeDirectory : Location → m (Except FileFault Unit)
  write : Location → List UInt8 → m (Except FileFault Unit)

/-- A change of a tree that may fail; a failure leaves the tree as it is. -/
def attempt (change : FileTree → Except FileFault FileTree) :
    StateM FileTree (Except FileFault Unit) := do
  match change (← get) with
  | .error e => return .error e
  | .ok t =>
    set t
    return .ok ()

/-- A shell whose files are those of a tree. -/
def treeShell (place : Location) (environment : Settings.Environment) (network : Network)
    (configure : Bool → Except Logging.SetupFault Unit) (input : List UInt8) :
    Shell (StateM FileTree) where
  place := place
  environment := environment
  network := network
  configure := configure
  input := return input
  read path := return (← get).read place path
  makeDirectory l := attempt (·.makeDirectory l)
  write l content := attempt (·.write l content)

end AmbientTypes.CommandLine
