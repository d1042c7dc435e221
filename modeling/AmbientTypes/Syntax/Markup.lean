import AmbientTypes.Syntax.Goal

namespace AmbientTypes.Syntax.Markup

variable (read : Goal → Reader)

def isNameChar (c : Char) : Bool := isWordChar c || c = '-' || c = '.' || c = ':'

def element (cs : List Char) : Result :=
  match skip cs with
  | '>' :: rest => read .markup rest
  | cs =>
    let name := cs.takeWhile isNameChar
    if name.isEmpty then none
    else do
      let (types, rest) := optional (read .typeArguments) (cs.dropWhile isNameChar)
      andThen types (read .attributes) rest

def attributes (cs : List Char) : Result :=
  match skip cs with
  | [] => none
  | '>' :: rest => read .markup rest
  | '/' :: rest => some (.leaf, dropMark '>' rest)
  | '\x7b' :: rest => do
    let (n, rest) ← read (.items '\x7d') rest
    andThen n (read .attributes) rest
  | '<' :: rest => do
    let (n, rest) ← read .element rest
    andThen n (read .attributes) rest
  | '"' :: rest => read .attributes ((rest.dropWhile (· ≠ '"')).drop 1)
  | '\'' :: rest => read .attributes ((rest.dropWhile (· ≠ '\'')).drop 1)
  | cs => read .attributes (dropToken cs)

/-- The text up to the next tag or expression is passed over. -/
def markup (cs : List Char) : Result :=
  match cs.dropWhile fun c => c ≠ '<' && c ≠ '\x7b' with
  | '\x7b' :: rest => do
    let (n, rest) ← read (.items '\x7d') rest
    andThen n (read .markup) rest
  | '<' :: rest =>
    match skip rest with
    | '/' :: rest => some (.leaf, (rest.dropWhile (· ≠ '>')).drop 1)
    | rest => do
      let (n, rest) ← read .element rest
      andThen n (read .markup) rest
  | _ => none

end AmbientTypes.Syntax.Markup
