import AmbientTypes.Decimal.Number
import AmbientTypes.Url.Host

namespace AmbientTypes

/-- The parts of an address; those that may be present and empty are optional. -/
structure Url where
  scheme : List Char
  user : List Char
  host : List Char
  portNumber : Option Int
  path : List Char
  query : Option (List Char)
  fragment : Option (List Char)
  deriving DecidableEq, Repr

namespace Url

inductive Fault where
  | tooLong
  | unprintable (c : Char) (position : Nat)
  | unprintableFragment (c : Char) (position : Nat)
  | badPortNumber (text : String)
  | badHost (fault : Host.Fault)
  | pathWithoutSlash
  | pathOfTwoSlashes
  | pathOfColon
  deriving DecidableEq, Repr

def Fault.message : Fault → String
  | tooLong => "URL too long"
  | unprintable c position =>
    s!"Invalid non-printable ASCII character in URL, {Text.quote (String.singleton c)} " ++
      s!"at position {position}."
  | unprintableFragment c position =>
    "Invalid non-printable ASCII character in URL fragment component, " ++
      s!"{Text.quote (String.singleton c)} at position {position}."
  | badPortNumber text => s!"Invalid port: {Text.quote text}"
  | badHost fault => fault.message
  | pathWithoutSlash => "For absolute URLs, path must be empty or begin with '/'"
  | pathOfTwoSlashes => "Relative URLs cannot have a path starting with '//'"
  | pathOfColon => "Relative URLs cannot have a path starting with ':'"

def isControl (c : Char) : Bool := c.toNat < 32 || c.toNat = 127

def isPrintedAscii (c : Char) : Bool := 32 ≤ c.toNat && c.toNat < 127

def isFragmentChar (c : Char) : Bool := isPrintedAscii c && !" \"<>`".toList.contains c

def isQueryChar (c : Char) : Bool := isPrintedAscii c && !" \"#<>".toList.contains c

def isPathChar (c : Char) : Bool := isQueryChar c && !"?`\x7b\x7d".toList.contains c

def isUserChar (c : Char) : Bool := isPathChar c && !"/;=@[\\]^|".toList.contains c

structure Parts where
  scheme : List Char
  authority : List Char
  path : List Char
  query : Option (List Char)
  fragment : Option (List Char)

def isSchemeChar (c : Char) : Bool := c.isAlphanum || ['+', '.', '-'].contains c

/-- A scheme with its colon, and the rest; a colon at the beginning ends an empty scheme. -/
def cutScheme (cs : List Char) : List Char × List Char :=
  let name := cs.takeWhile isSchemeChar
  let begins := match name with
    | [] => true
    | c :: _ => c.isAlpha
  match cs.dropWhile isSchemeChar with
  | ':' :: rest => if begins then (name, rest) else ([], cs)
  | _ => ([], cs)

def endsAuthority (c : Char) : Bool := ['/', '?', '#'].contains c

def cutAuthority : List Char → List Char × List Char
  | '/' :: '/' :: rest => rest.span (!endsAuthority ·)
  | cs => ([], cs)

def Parts.read (cs : List Char) : Parts :=
  let (scheme, rest) := cutScheme cs
  let (authority, rest) := cutAuthority rest
  let (rest, fragment) := Text.cut '#' rest
  let (path, query) := Text.cut '?' rest
  ⟨scheme, authority, path, query, fragment⟩

/-- The user and the rest of an authority, at the last at sign. -/
def cutUser (authority : List Char) : List Char × List Char :=
  let (host, user) := Text.cut '@' authority.reverse
  ((user.getD []).reverse, host.reverse)

/-- A host in brackets up to the last closing one, and the rest. -/
def cutBrackets? (cs : List Char) : Option (List Char × List Char) :=
  match cs with
  | '[' :: _ =>
    let (after, before) := Text.cut ']' cs.reverse
    before.map fun before => ((']' :: before).reverse, after.reverse)
  | _ => none

def cutHost (cs : List Char) : List Char × List Char :=
  let (host, rest) := (cutBrackets? cs).getD (cs.span (· ≠ ':'))
  match rest with
  | ':' :: number => (host, number)
  | number => (host, number)

def impliedPortNumber? : List Char → Option Int
  | ['f', 't', 'p'] => some 21
  | ['h', 't', 't', 'p'] => some 80
  | ['h', 't', 't', 'p', 's'] => some 443
  | ['w', 's'] => some 80
  | ['w', 's', 's'] => some 443
  | _ => none

/-- Reads a port number; none if there is no text or the scheme implies it. -/
def readPortNumber (scheme text : List Char) : Except Fault (Option Int) :=
  if text.isEmpty then .ok none
  else match Decimal.readInt text with
    | none => .error (.badPortNumber (String.ofList text))
    | some n => .ok (if impliedPortNumber? scheme = some n then none else some n)

/-- Goes one segment on from the segments so far, the last one first; the root stays. -/
def step (done : List (List Char)) (segment : List Char) : List (List Char) :=
  if segment = ['.'] then done
  else if segment = ['.', '.'] then if done = [[]] then done else done.drop 1
  else segment :: done

def removeDots (path : List Char) : List Char :=
  ['/'].intercalate ((Text.splitAt '/' path).foldl step []).reverse

def checkPath (hasScheme hasAuthority : Bool) (path : List Char) : Except Fault Unit :=
  if hasAuthority then
    if path.isEmpty || path.head? = some '/' then .ok () else .error .pathWithoutSlash
  else if hasScheme then .ok ()
  else match path with
    | '/' :: '/' :: _ => .error .pathOfTwoSlashes
    | ':' :: _ => .error .pathOfColon
    | _ => .ok ()

def maxLength : Nat := 65536

/-- Puts the normal forms of parts together; `host` replaces the host of the authority. -/
def ofParts (parts : Parts) (host : Option (List Char)) : Except Fault Url := do
  let (user, place) := cutUser parts.authority
  let (ownHost, number) := cutHost place
  let user := Percent.encode isUserChar user
  let host ← (Host.read (host.getD ownHost)).mapError .badHost
  let portNumber ← readPortNumber parts.scheme number
  let hasScheme := !parts.scheme.isEmpty
  let hasAuthority := !user.isEmpty || !host.isEmpty || portNumber.isSome
  checkPath hasScheme hasAuthority parts.path
  let path := if hasScheme || hasAuthority then removeDots parts.path else parts.path
  return {
    scheme := parts.scheme.map Char.toLower
    user := user
    host := host
    portNumber := portNumber
    path := Percent.encode isPathChar path
    query := parts.query.map (Percent.encode isQueryChar)
    fragment := parts.fragment.map (Percent.encode isFragmentChar) }

/-- Reads an address into normal form: scheme and host in lower case, no port that the scheme
implies, no dot segments, and escapes for what may not stand in its part. -/
def parse (s : String) : Except Fault Url :=
  let cs := s.toList
  if maxLength < cs.length then .error .tooLong
  else match cs.find? isControl with
    | some c => .error (.unprintable c (cs.idxOf c))
    | none => ofParts (Parts.read cs) none

def authority (u : Url) : List Char :=
  (if u.user.isEmpty then [] else u.user ++ ['@']) ++
    (if u.host.contains ':' then '[' :: u.host ++ [']'] else u.host) ++
    (match u.portNumber with
      | none => []
      | some n => ':' :: (toString n).toList)

def marked (mark : Char) (part : Option (List Char)) : List Char :=
  match part with
  | none => []
  | some cs => mark :: cs

def text (u : Url) : String :=
  let authority := u.authority
  String.ofList <|
    (if u.scheme.isEmpty then [] else u.scheme ++ [':']) ++
      (if authority.isEmpty then [] else '/' :: '/' :: authority) ++
      u.path ++ marked '?' u.query ++ marked '#' u.fragment

def isAbsolute (u : Url) : Bool := !u.scheme.isEmpty && !u.host.isEmpty

end Url

end AmbientTypes
