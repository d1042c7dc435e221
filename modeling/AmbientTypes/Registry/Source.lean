import AmbientTypes.Archive.Unpack
import AmbientTypes.Declaration.Document
import AmbientTypes.Network.Fetch
import AmbientTypes.Package.Metadata
import AmbientTypes.Text.Lowercase

namespace AmbientTypes.Registry

/-- The general registry knows the entry of a package; the entryless one has declaration files
only. -/
inductive Kind where
  | general
  | entryless
  deriving DecidableEq, Repr

namespace Kind

def name : Kind → String
  | general => "npm"
  | entryless => Declaration.entrylessRegistry

/-- The kind that a tag chooses, in any letter case. -/
def ofTag (tag : String) : Kind :=
  if Text.lower tag = entryless.name then entryless else general

end Kind

inductive Fault where
  | emptyName
  | network (fault : Network.Fault)
  | metadata (fault : Package.MetadataFault)
  | noLatest (name : String)
  | archive (fault : Archive.Fault)
  /-- What no source is meant to end with. -/
  | unexpected (kind message : String)

namespace Fault

def message : Fault → String
  | emptyName => "package name cannot be empty"
  | network fault => fault.message
  | metadata fault => fault.message
  | noLatest name => s!"unable to get the latest version of {name}"
  | archive fault => fault.message
  | unexpected _ message => message

def kind : Fault → String
  | emptyName => "ValidationError"
  | network (.timeout _ _) => "FetchTimeoutError"
  | network _ | metadata _ | noLatest _ => "RegistryError"
  | archive _ => "ExtractionError"
  | unexpected kind _ => kind

/-- Whether a package cannot be resolved, as it happens to packages. -/
def isResolution : Fault → Bool
  | emptyName | unexpected _ _ => false
  | _ => true

end Fault

/-- The declarations of a package by its name and its version. -/
abbrev Source := String → String → ExceptT Fault Journaled Declarations

abbrev Sources := Kind → Source

/-- The version that stands for an empty one. -/
def latest : String := "latest"

def declarationsAt (client : Network.Client) (address : String) :
    ExceptT Fault Journaled (List ArchiveFile) := do
  let content ← (client.bytes address).adapt .network
  match Archive.unpack content with
  | .error e => throw (.archive e)
  | .ok files => return ArchiveFile.declarations files

def logResolved (kind : Kind) (name version : String) (files : List ArchiveFile) :
    Journaled Unit :=
  Journaled.log .debug "registry.resolved" [("registry", .string kind.name),
    ("package", .string name), ("version", .string version),
    ("declarations", Json.int files.length)]

end AmbientTypes.Registry
