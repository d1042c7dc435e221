import AmbientTypes.CommandLine.Shell
import AmbientTypes.Declaration.Document

namespace AmbientTypes.CommandLine

/-- How far the writing of documents has come, and what has stopped it. -/
structure Writing where
  written : Nat
  events : List Event
  fault : Option FileFault

def outsideEvent (path : String) : Event :=
  .entry ⟨.warning, "cli.unsafe_path", [("filepath", .string path)]⟩

variable {m : Type → Type} [Monad m]

/-- Puts a file in its place and makes the directories above it. -/
def putFile (shell : Shell m) (target : Location) (content : String) :
    m (Except FileFault Unit) := do
  match (← shell.makeDirectory target.dropLast) with
  | .error e => return .error e
  | .ok () => shell.write target content.toUTF8.toList

/-- Writes documents below a directory, up to the first failure. -/
def writeDocuments (shell : Shell m) (root : Location) : List Document → m Writing
  | [] => return ⟨0, [], none⟩
  | d :: ds => do
    if d.path.toList.contains '\x00' then return ⟨0, [], some .nulCharacter⟩
    let target := root.follow d.path
    if !target.isWithin root then
      let rest ← writeDocuments shell root ds
      return { rest with events := outsideEvent d.path :: rest.events }
    match (← putFile shell target d.content) with
    | .error e => return ⟨0, [], some e⟩
    | .ok () =>
      let rest ← writeDocuments shell root ds
      return { rest with written := rest.written + 1 }

end AmbientTypes.CommandLine
