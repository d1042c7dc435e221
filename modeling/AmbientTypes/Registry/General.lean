import AmbientTypes.Registry.Source

namespace AmbientTypes.Registry.General

def defaultBase : String := "https://registry.npmjs.org"

def versionTag (version : String) : String := if version.isEmpty then latest else version

def metadataAddress (base name version : String) : String :=
  Text.stripSlashes base ++ "/" ++ Url.Percent.segment name ++ "/" ++
    Url.Percent.segment (versionTag version)

def metadata (client : Network.Client) (base name version : String) :
    ExceptT Fault Journaled Package.Metadata := do
  let v ← (client.json (metadataAddress base name version)).adapt .network
  match Package.Metadata.ofJson v with
  | .error e => throw (.metadata e)
  | .ok m => return m

/-- The version that is noted for a package: that of its metadata if they have one. -/
def notedVersion (m : Package.Metadata) (version : String) : String :=
  if m.version.isEmpty then versionTag version else m.version

def source (client : Network.Client) (base : String) : Source := fun name version => do
  if name.isEmpty then throw .emptyName
  let m ← metadata client base name version
  let files ← declarationsAt client m.tarball
  logResolved .general name (notedVersion m version) files
  return ⟨m.typesEntry, files⟩

end AmbientTypes.Registry.General
