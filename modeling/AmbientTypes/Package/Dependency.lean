import AmbientTypes.Text.Affix

namespace AmbientTypes

/-- An external package that an import names. The name keeps its scope; an empty version is the
latest one. -/
@[ext]
structure Dependency where
  registry : String
  name : String
  version : String
  deriving DecidableEq, Repr, Inhabited

namespace Dependency

/-- The name, with the version if there is one. -/
def key (d : Dependency) : String :=
  if d.version.isEmpty then d.name else d.name ++ "@" ++ d.version

/-- The name of the ambient module: the key, with the registry if there is one. -/
def moduleKey (d : Dependency) : String :=
  if d.registry.isEmpty then d.key else d.registry ++ ":" ++ d.key

/-- The directory of all documents of the package. -/
def documentRoot (d : Dependency) : String :=
  if d.registry.isEmpty then d.key else d.registry ++ "/" ++ d.key

/-- The directory that archives keep their files in. -/
def archiveRoot : String := "package"

def declarationEnd : String := ".d.ts"

/-- A path without the archive's own root, which is the common one or the package's name. -/
def relativePath (d : Dependency) (path : String) : String :=
  match Text.afterStart? (archiveRoot ++ "/") path with
  | some relative => relative
  | none => (Text.afterStart? (d.name ++ "/") path).getD path

/-- Where a file of the archive is placed. -/
def documentPath (d : Dependency) (path : String) : String :=
  d.documentRoot ++ "/" ++ d.relativePath path

/-- The entry of a package that names none. -/
def defaultEntry : String := "index.d.ts"

/-- An entry without the mark of the current directory. -/
def plainEntry (entry : String) : String :=
  let entry := if entry.isEmpty then defaultEntry else entry
  (Text.afterStart? "./" entry).getD entry

def entryCandidates (d : Dependency) (entry : String) : List String :=
  let entry := plainEntry entry
  [entry, archiveRoot ++ "/" ++ entry, d.name ++ "/" ++ entry]

end Dependency

end AmbientTypes
