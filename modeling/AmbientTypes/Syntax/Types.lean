import AmbientTypes.Syntax.Goal

namespace AmbientTypes.Syntax.Types

variable (read : Goal → Reader)

/-- Drops the mark of a union or an intersection, but not a doubled one. -/
def unionMark? : List Char → Option (List Char)
  | '|' :: '|' :: _ => none
  | '&' :: '&' :: _ => none
  | '|' :: '=' :: _ => none
  | '&' :: '=' :: _ => none
  | '|' :: rest => some rest
  | '&' :: rest => some rest
  | _ => none

/-- The branches of a conditional type, if it is one. -/
def branches (cs : List Char) : Node × List Char :=
  match skip cs with
  | '?' :: rest =>
    let (a, rest) := optional (read .type) rest
    match skip rest with
    | ':' :: rest =>
      let (b, rest) := optional (read .type) rest
      (.group [a, b], rest)
    | _ => (a, rest)
  | _ => (.leaf, cs)

def type (cs : List Char) : Result := do
  let (n, rest) ← read .typeOperand ((unionMark? (skip cs)).getD cs)
  match unionMark? (skip rest) with
  | some behind =>
    match read .type behind with
    | some (more, rest) => some (.group [n, more], rest)
    | none => some (n, rest)
  | none =>
    match wordOnLine? rest with
    | some ("extends", rest) =>
      let (bound, rest) := optional (read .type) rest
      let (outcome, rest) := branches read rest
      some (.group [n, bound, outcome], rest)
    | some ("is", rest) =>
      let (m, rest) := optional (read .type) rest
      some (.group [n, m], rest)
    | _ => some (n, rest)

def isPrefixWord (word : String) : Bool :=
  ["keyof", "unique", "readonly", "infer", "asserts", "abstract", "new"].contains word

def isInfixWord (word : String) : Bool :=
  ["extends", "is", "in", "of", "instanceof", "as", "satisfies", "implements"].contains word

/-- Whether a type begins on the rest of the line. -/
def startsType (cs : List Char) : Bool :=
  let g := gap cs
  !g.lineBreak &&
    match word? g.rest with
    | some (word, _) => !isInfixWord word
    | none =>
      match g.rest with
      | '(' :: _ => true
      | '\x7b' :: _ => true
      | '[' :: _ => true
      | '<' :: _ => true
      | _ => false

/-- A value whose type is asked for. -/
def query (cs : List Char) : Result :=
  match word? (skip cs) with
  | some ("import", rest) => read (.typeName true .importWord) rest
  | some (word, rest) => read (.typeName true (.name word)) rest
  | none => none

def wordOperand (word : String) (cs : List Char) : Result :=
  if isPrefixWord word && startsType cs then do
    let (n, rest) ← read .typeOperand cs
    some (.group [n], rest)
  else match word with
  | "typeof" => query read cs
  | "import" => read (.typeName true .importWord) cs
  | _ => read (.typeName false (.name word)) cs

/-- A parameter list or a type in parentheses; a function type goes on behind an arrow. -/
def parentheses (cs : List Char) : Result := do
  let (n, rest) ← read (.typeItems ')') cs
  match skip rest with
  | '=' :: '>' :: rest =>
    let (m, rest) := optional (read .type) rest
    some (.group [n, m], rest)
  | _ => some (n, rest)

def typeOperand (cs : List Char) : Result := do
  let cs := skip cs
  let (n, rest) ←
    match cs with
    | '(' :: rest => parentheses read rest
    | '[' :: rest => read (.typeItems ']') rest
    | '\x7b' :: rest => read (.members true) rest
    | '\x60' :: rest => read .template rest
    | '<' :: _ => do
      let (types, rest) ← read .typeArguments cs
      let (n, rest) ← read .typeOperand rest
      some (.group [types, n], rest)
    | '-' :: rest => (number? (skip rest)).map (.leaf, ·)
    | _ =>
      match word? cs with
      | some (word, rest) => wordOperand read word rest
      | none =>
        match literal? cs with
        | some (_, rest) => some (.leaf, rest)
        | none => (number? cs).map (.leaf, ·)
  read (.typeSuffixes n) rest

def typeName (calls : Bool) (n : Node) (cs : List Char) : Result :=
  let g := gap cs
  match g.rest with
  | '.' :: rest =>
    match word? (skip rest) with
    | some (_, rest) => read (.typeName calls (.group [n])) rest
    | none => some (n, cs)
  | '(' :: rest =>
    if calls && !g.lineBreak then do
      let (arguments, rest) ← read (.items ')') rest
      read (.typeName calls (.call n [] arguments.children)) rest
    else some (n, cs)
  | '<' :: _ =>
    match read .typeArguments g.rest with
    | some (types, rest) => read (.typeName calls (.group [n, types])) rest
    | none => some (n, cs)
  | _ => some (n, cs)

def typeSuffixes (n : Node) (cs : List Char) : Result :=
  let g := gap cs
  match g.rest with
  | '[' :: rest =>
    if g.lineBreak then some (n, cs)
    else do
      let (i, rest) ← read (.typeItems ']') rest
      read (.typeSuffixes (.group [n, i])) rest
  | _ => some (n, cs)

def typeItems (close : Char) (cs : List Char) : Result :=
  match skip cs with
  | [] => some (.leaf, [])
  | c :: rest =>
    if c = close then some (.leaf, rest)
    else
      let (n, rest) :=
        match read .type (c :: rest) with
        | some found => found
        | none => (.leaf, dropToken (c :: rest))
      andThen n (read (.typeItems close)) rest

def dropModifier (cs : List Char) : List Char :=
  match word? (skip cs) with
  | some (word, rest) =>
    if (word = "const" || word = "in" || word = "out") && (word? (skip rest)).isSome then rest
    else cs
  | none => cs

def typeArguments (cs : List Char) : Result :=
  match skip cs with
  | '<' :: rest => read .typeArgument rest
  | _ => none

def typeArgument (cs : List Char) : Result := do
  let (n, rest) ← read .type (dropModifier (dropModifier cs))
  let (m, rest) :=
    match skip rest with
    | '=' :: rest => optional (read .type) rest
    | _ => (.leaf, rest)
  match skip rest with
  | '>' :: rest => some (.group [n, m], rest)
  | ',' :: rest =>
    match skip rest with
    | '>' :: rest => some (.group [n, m], rest)
    | _ => do
      let (more, rest) ← read .typeArgument rest
      some (.group [n, m, more], rest)
  | _ => none

def typeList (cs : List Char) : Result := do
  let (n, rest) ← read .type cs
  match skip rest with
  | ',' :: rest =>
    let (more, rest) := optional (read .typeList) rest
    some (.group [n, more], rest)
  | _ => some (n, rest)

end AmbientTypes.Syntax.Types
