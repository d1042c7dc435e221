import AmbientTypes.Archive.File
import AmbientTypes.Declaration.Template
import AmbientTypes.Logging.Journal
import AmbientTypes.Package.Name
import AmbientTypes.Path

namespace AmbientTypes

/-- The declaration files of a package, with the entry that its metadata name. -/
structure Declarations where
  entry : String
  files : List ArchiveFile
  deriving DecidableEq, Repr

structure Document where
  path : String
  content : String
  deriving DecidableEq, Repr

namespace Declaration

inductive Fault where
  | emptyName
  | badTemplate (template : List Char) (fault : TemplateFault)
  deriving DecidableEq, Repr

def Fault.message : Fault → String
  | emptyName => "dependency name cannot be empty"
  | badTemplate template fault => fault.message template

def Fault.kind : Fault → String
  | emptyName => "ValidationError"
  | badTemplate _ (.unknownName _) => "IndexError"
  | badTemplate _ _ => "error"

def wrapModule (moduleKey body : String) : String :=
  "declare module '" ++ moduleKey ++ "' \x7b\n" ++ body ++ "\n\x7d"

def sidecarName : String := "__types__.d.ts"

def entryFile? (d : Dependency) (entry : String) (files : List ArchiveFile) :
    Option ArchiveFile :=
  let candidates := d.entryCandidates entry
  files.find? fun f => candidates.contains f.path

/-- The last file with a path. -/
def fileAt? (path : String) (files : List ArchiveFile) : Option ArchiveFile :=
  files.reverse.find? (·.path = path)

/-- Where a path of a directive leads from a file, in normal form. -/
def target (place path : String) : String :=
  Path.normalize (Path.join (Path.directory place) path)

/-- What the directives of a text name, if it is the text of a file at a place. -/
def targets (place text : String) : List String := (referencePaths text).map (target place)

/-- The files that the directives of a text name, each once, without the file of the text itself. -/
def filesNamed (place text : String) (files : List ArchiveFile) : List ArchiveFile :=
  ((targets place text).eraseDups.filter (· ≠ place)).filterMap (fileAt? · files)

def referenceTargets (entry : ArchiveFile) : List String := targets entry.path entry.text

def references (entry : ArchiveFile) (files : List ArchiveFile) : List ArchiveFile :=
  filesNamed entry.path entry.text files

/-- The module that gives the entry document its name. -/
def sidecar (d : Dependency) (entryPath : String) : Document :=
  let variableName := Package.variableName d.name
  let target := (Text.beforeEnd? Dependency.declarationEnd entryPath).getD entryPath
  let body := "import " ++ variableName ++ " from \"" ++ target ++ "\";\nexport = " ++
    variableName ++ ";"
  ⟨d.documentRoot ++ "/" ++ sidecarName, wrapModule d.moduleKey body⟩

def clauseTemplate (d : Dependency) : List Char :=
  ("declare module '" ++ d.moduleKey ++ "'").toList

def entryDocuments (d : Dependency) (entry : ArchiveFile) : Except Fault (List Document) :=
  let path := d.documentPath entry.path
  if (clauses d.name entry.text).isEmpty then .ok [⟨path, entry.text⟩, sidecar d path]
  else
    let template := clauseTemplate d
    match readTemplate template with
    | .error e => .error (.badTemplate template e)
    | .ok inserts => .ok [⟨path, replaceClauses d.name (expand inserts) entry.text⟩]

def fromEntry (d : Dependency) (types : Declarations) : Except Fault (Journaled (List Document)) :=
  match entryFile? d types.entry types.files with
  | none =>
    let entry := if types.entry.isEmpty then Dependency.defaultEntry else types.entry
    .ok ⟨[], [.entry ⟨.info, "generator.no_entry",
      [("package", .string d.name), ("entry", .string entry)]⟩]⟩
  | some entry => do
    let documents ← entryDocuments d entry
    let referred := (references entry types.files).map fun f =>
      Document.mk (d.documentPath f.path) f.text
    .ok (pure (referred ++ documents))

def isBlankText (s : String) : Bool := s.toList.all Text.isBlank

/-- The documents of a package whose files are modules of their own. -/
def selfContained (d : Dependency) (files : List ArchiveFile) : Journaled (List Document) :=
  let (blank, full) := files.partition fun f => isBlankText f.text
  { value := full.map fun f => ⟨d.documentPath f.path, wrapModule d.moduleKey f.text⟩
    events := blank.map fun f =>
      .entry ⟨.debug, "generator.empty_file", [("path", .string f.path)]⟩ }

def entrylessRegistry : String := "jsr"

def documents (d : Dependency) (types : Declarations) : Except Fault (Journaled (List Document)) :=
  if d.name.isEmpty then .error .emptyName
  else if types.files.isEmpty then .ok (pure [])
  else if d.registry = entrylessRegistry then .ok (selfContained d types.files)
  else fromEntry d types

/-- The documents of a builtin package: its files as they are, blanks at their ends left out. -/
def builtinDocuments (package : String) (types : Declarations) : List Document :=
  (types.files.map fun f => Document.mk (package ++ "/" ++ f.path) (Text.strip f.text)).filter
    (!·.content.isEmpty)

end Declaration

end AmbientTypes
