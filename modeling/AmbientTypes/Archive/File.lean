import AmbientTypes.Package.Dependency
import AmbientTypes.Text.Utf8

namespace AmbientTypes

/-- A file with its whole path inside the archive. -/
structure ArchiveFile where
  path : String
  data : List UInt8
  deriving DecidableEq, Repr, Inhabited

namespace ArchiveFile

def text (f : ArchiveFile) : String := String.ofList (Text.Utf8.decodeLossy f.data)

def isDeclaration (f : ArchiveFile) : Bool := Text.endsWith Dependency.declarationEnd f.path

def declarations (files : List ArchiveFile) : List ArchiveFile := files.filter isDeclaration

end ArchiveFile

end AmbientTypes
