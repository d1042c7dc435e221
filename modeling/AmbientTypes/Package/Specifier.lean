import AmbientTypes.Package.Core
import AmbientTypes.Package.Dependency
import AmbientTypes.Text.Lowercase
import AmbientTypes.Text.Word

namespace AmbientTypes

/-- The parts of a specifier; a missing part is empty. -/
structure Specifier where
  tag : List Char
  scope : List Char
  path : List Char
  version : List Char
  deriving DecidableEq, Repr

namespace Specifier

def isScopeChar (c : Char) : Bool := Text.isWord c || c = '-' || c = '.'

def isPathChar (c : Char) : Bool := isScopeChar c || c = '/'

def isVersionChar (c : Char) : Bool := isScopeChar c || c = '^' || c = '~'

/-- A part that is there and made of the given characters. -/
def isPart (p : Char → Bool) (cs : List Char) : Bool := !cs.isEmpty && cs.all p

def parsePath? (tag scope cs : List Char) : Option Specifier :=
  let (path, version?) := Text.cut '@' cs
  let version := version?.getD []
  if isPart isPathChar path && (version?.isNone || isPart isVersionChar version) then
    some ⟨tag, scope, path, version⟩
  else none

def parseScope? (tag : List Char) : List Char → Option Specifier
  | '@' :: cs =>
    match Text.cut '/' cs with
    | (scope, some rest) => if isPart isScopeChar scope then parsePath? tag scope rest else none
    | (_, none) => none
  | cs => parsePath? tag [] cs

def parseLine? (cs : List Char) : Option Specifier :=
  match Text.cut ':' cs with
  | (tag, some rest) => if isPart Text.isWord tag then parseScope? tag rest else none
  | (_, none) => parseScope? [] cs

def dropLineFeed : List Char → List Char
  | [] => []
  | ['\n'] => []
  | c :: cs => c :: dropLineFeed cs

def parse? (s : String) : Option Specifier := parseLine? (dropLineFeed s.toList)

def package (s : Specifier) : List Char := (Text.cut '/' s.path).1

def dependency (s : Specifier) : Dependency where
  registry := Text.lower (String.ofList s.tag)
  name := String.ofList (if s.scope.isEmpty then s.package else '@' :: s.scope ++ '/' :: s.package)
  version := String.ofList s.version

def isLocal (s : String) : Bool :=
  match s.toList with
  | c :: _ => c = '.' || c = '/' || c = '\\'
  | [] => false

end Specifier

namespace Dependency

/-- The package behind a specifier; none for core modules, local paths and malformed texts. -/
def ofSpecifier? (s : String) : Option Dependency :=
  if s.isEmpty || Package.isBuiltin s || Specifier.isLocal s then none
  else do
    let parts ← Specifier.parse? s
    if parts.package.isEmpty then none else some parts.dependency

def classify (specifiers : List String) : List Dependency := specifiers.filterMap ofSpecifier?

end Dependency

end AmbientTypes
