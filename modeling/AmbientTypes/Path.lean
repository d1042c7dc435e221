import AmbientTypes.Text.Affix

namespace AmbientTypes.Path

/-- The slashes that a normal path keeps at its beginning. -/
def leadingSlashes : List Char → Nat
  | '/' :: '/' :: '/' :: _ => 1
  | '/' :: '/' :: _ => 2
  | '/' :: _ => 1
  | _ => 0

/-- Goes one segment on from the segments so far, the last one first. -/
def step (rooted : Bool) (done : List (List Char)) (segment : List Char) : List (List Char) :=
  if segment.isEmpty || segment = ['.'] then done
  else if segment ≠ ['.', '.'] then segment :: done
  else match done with
    | [] => if rooted then [] else [segment]
    | last :: earlier => if last = ['.', '.'] then segment :: done else earlier

def normalSegments (cs : List Char) : List (List Char) :=
  ((Text.splitAt '/' cs).foldl (step (0 < leadingSlashes cs)) []).reverse

def joinSegments (segments : List (List Char)) : List Char := ['/'].intercalate segments

def normalize (path : String) : String :=
  let cs := path.toList
  let normal := List.replicate (leadingSlashes cs) '/' ++ joinSegments (normalSegments cs)
  if normal.isEmpty then "." else String.ofList normal

/-- A path as seen from a directory; one that begins with a slash stands for itself. -/
def join (directory path : String) : String :=
  if Text.startsWith "/" path then path
  else if directory.isEmpty || Text.endsWith "/" directory then directory ++ path
  else directory ++ "/" ++ path

def upToSlash (cs : List Char) : List Char := (cs.reverse.dropWhile (· ≠ '/')).reverse

def directory (path : String) : String :=
  let head := upToSlash path.toList
  if head.all (· = '/') then String.ofList head
  else String.ofList (head.reverse.dropWhile (· = '/')).reverse

end AmbientTypes.Path
