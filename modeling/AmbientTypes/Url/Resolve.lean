import AmbientTypes.Url.Basic

namespace AmbientTypes.Url

/-- A path without the parameters of its last segment, and the parameters. -/
def cutParameters (path : List Char) : List Char × List Char :=
  let last := (path.reverse.takeWhile (· ≠ '/')).reverse
  let (segment, parameters) := Text.cut ';' last
  (path.take (path.length - last.length) ++ segment, parameters.getD [])

/-- Goes one segment on from the segments so far, the last one first. -/
def descend (done : List (List Char)) (segment : List Char) : List (List Char) :=
  if segment = ['.', '.'] then done.drop 1
  else if segment = ['.'] then done
  else segment :: done

/-- Drops the empty segments that are neither first nor last. -/
def dropInnerEmpty : List (List Char) → List (List Char)
  | first :: second :: rest =>
    first :: ((second :: rest).dropLast.filter (!·.isEmpty) ++ [(second :: rest).getLastD []])
  | segments => segments

/-- The segments of a directory, without the name of the file in it. -/
def directorySegments (path : List Char) : List (List Char) :=
  let segments := Text.splitAt '/' path
  if segments.getLastD [] = [] then segments else segments.dropLast

/-- The path that goes on from the directory of another one. -/
def mergePath (base path : List Char) : List Char :=
  let own := Text.splitAt '/' path
  let segments :=
    if path.head? = some '/' then own else dropInnerEmpty (directorySegments base ++ own)
  let last := segments.getLastD []
  let done := segments.foldl descend []
  let done := if last = ['.'] || last = ['.', '.'] then [] :: done else done
  let merged := ['/'].intercalate done.reverse
  if merged.isEmpty then ['/'] else merged

def nonEmpty (part : Option (List Char)) : Option (List Char) := part.filter (!·.isEmpty)

/-- The text of an address whose path has parameters; empty parts leave no mark. -/
def joinParts (u : Url) (parameters : List Char) : String :=
  let path := if parameters.isEmpty then u.path else u.path ++ ';' :: parameters
  let path := if path.isEmpty || path.head? = some '/' then path else '/' :: path
  text { u with path := path, query := nonEmpty u.query, fragment := nonEmpty u.fragment }

def resolvedText (base reference : Url) : String :=
  let (path, parameters) := cutParameters reference.path
  if !reference.authority.isEmpty then
    joinParts { reference with scheme := base.scheme, path := path } parameters
  else
    let own := { base with query := reference.query, fragment := reference.fragment }
    if path.isEmpty && parameters.isEmpty then
      let (basePath, baseParameters) := cutParameters base.path
      let query := (nonEmpty reference.query).or base.query
      joinParts { own with path := basePath, query := query } baseParameters
    else
      joinParts { own with path := mergePath (cutParameters base.path).1 path } parameters

def resolve (base reference : Url) : Except Fault Url :=
  if reference.text.isEmpty then parse base.text else parse (resolvedText base reference)

def withHost (u : Url) (host : List Char) : Except Fault Url :=
  let host := if host.contains ':' then '[' :: host ++ [']'] else host
  ofParts ⟨u.scheme, u.authority, u.path, u.query, u.fragment⟩ (some host)

def withFragment (u : Url) (fragment : List Char) : Except Fault Url :=
  match fragment.find? isControl with
  | some c => .error (.unprintableFragment c (fragment.idxOf c))
  | none => .ok { u with fragment := some (Percent.encode isFragmentChar fragment) }

end AmbientTypes.Url
