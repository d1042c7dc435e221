import AmbientTypes.Text.Affix

namespace AmbientTypes

/-- The names from the root down to a file or a directory. -/
abbrev Location := List String

namespace Location

/-- The names of a path; empty ones and `.` lead nowhere. -/
def names (path : String) : List String :=
  ((Text.splitAt '/' path.toList).filter fun name => !name.isEmpty && name ≠ ['.']).map
    String.ofList

/-- Goes on by one name; `..` leads up, and from the root to itself. -/
def step (l : Location) (name : String) : Location :=
  if name = ".." then l.dropLast else l ++ [name]

def start (l : Location) (path : String) : Location := if Text.startsWith "/" path then [] else l

/-- Where a path leads, whatever is there. -/
def follow (l : Location) (path : String) : Location := (names path).foldl step (start l path)

def isWithin (l root : Location) : Bool := root.isPrefixOf l

def text (l : Location) : String := "/" ++ "/".intercalate l

end Location

inductive FileFault where
  | missing
  | isDirectory
  | notDirectory
  | isFile
  | longName
  | nulCharacter
  deriving DecidableEq, Repr

namespace FileFault

def kind : FileFault → String
  | missing => "FileNotFoundError"
  | isDirectory => "IsADirectoryError"
  | notDirectory => "NotADirectoryError"
  | isFile => "FileExistsError"
  | longName => "OSError"
  | nulCharacter => "ValueError"

end FileFault

/-- Files with their contents, and directories that may be empty. The root is a directory, and so is
all that has something below it. -/
structure FileTree where
  files : List (Location × List UInt8)
  directories : List Location

namespace FileTree

def file? (t : FileTree) (l : Location) : Option (List UInt8) := t.files.lookup l

def isDirectory (t : FileTree) (l : Location) : Bool :=
  l.isEmpty || t.directories.any l.isPrefixOf || t.files.any fun f => l ≠ f.1 && l.isPrefixOf f.1

def maxName : Nat := 255

def isLong (name : String) : Bool := maxName < name.utf8ByteSize

/-- Walks from one location to another, through directories only. -/
def walk (t : FileTree) (l : Location) : List String → Except FileFault Location
  | [] => .ok l
  | name :: rest =>
    if (t.file? l).isSome then .error .notDirectory
    else if !t.isDirectory l then .error .missing
    else if isLong name then .error .longName
    else walk t (Location.step l name) rest

def read (t : FileTree) (l : Location) (path : String) : Except FileFault (List UInt8) := do
  if path.toList.contains '\x00' then throw .nulCharacter
  let found ← t.walk (Location.start l path) (Location.names path)
  match t.file? found with
  | some content => return content
  | none => if t.isDirectory found then throw .isDirectory else throw .missing

/-- What keeps a directory from being made below another one. -/
def obstacle? (t : FileTree) (l : Location) : List String → Option FileFault
  | [] => none
  | name :: rest =>
    let next := l ++ [name]
    if isLong name then some .longName
    else if (t.file? next).isSome then some (if rest.isEmpty then .isFile else .notDirectory)
    else obstacle? t next rest

def makeDirectory (t : FileTree) (l : Location) : Except FileFault FileTree :=
  if t.isDirectory l then .ok t
  else match t.obstacle? [] l with
    | some fault => .error fault
    | none => .ok { t with directories := l :: t.directories }

/-- Puts content into the file of a location, in its place if the file is there. -/
def putFile (l : Location) (content : List UInt8) :
    List (Location × List UInt8) → List (Location × List UInt8)
  | [] => [(l, content)]
  | f :: files => if f.1 = l then (l, content) :: files else f :: putFile l content files

def write (t : FileTree) (l : Location) (content : List UInt8) : Except FileFault FileTree :=
  if t.isDirectory l then .error .isDirectory
  else if isLong (l.getLastD "") then .error .longName
  else .ok { t with files := putFile l content t.files }

end FileTree

end AmbientTypes
