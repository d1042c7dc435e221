import AmbientTypes.Package.Name
import AmbientTypes.Registry.Source

namespace AmbientTypes.Registry.Entryless

structure Bases where
  documents : String
  archives : String
  deriving DecidableEq, Repr

def defaultBases : Bases := ⟨"https://jsr.io", "https://npm.jsr.io"⟩

def archiveAddress (archives name version : String) : String :=
  Text.stripSlashes archives ++ "/~/11/@jsr/" ++ Package.flatName name ++ "/" ++ version ++ ".tgz"

def documentAddress (documents name : String) : String :=
  Text.stripSlashes documents ++ "/" ++ name ++ "/meta.json"

def latestIn? (v : Json) : Option String :=
  ((v.get? latest).bind Json.string?).filter (!·.isEmpty)

def latestVersion (client : Network.Client) (documents name : String) :
    ExceptT Fault Journaled String := do
  let v ← (client.json (documentAddress documents name)).adapt .network
  match latestIn? v with
  | none => throw (.noLatest name)
  | some version => return version

def source (client : Network.Client) (bases : Bases) : Source := fun name version => do
  if name.isEmpty then throw .emptyName
  let version ←
    if version.isEmpty then latestVersion client bases.documents name else pure version
  let files ← declarationsAt client (archiveAddress bases.archives name version)
  logResolved .entryless name version files
  return ⟨"", files⟩

end AmbientTypes.Registry.Entryless
