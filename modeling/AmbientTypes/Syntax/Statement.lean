import AmbientTypes.Syntax.Goal

namespace AmbientTypes.Syntax.Statement

variable (read : Goal → Reader)

def statements (whole : Bool) (cs : List Char) : Result :=
  match skip cs with
  | [] => some (.leaf, [])
  | '\x7d' :: rest =>
    if whole then read (.statements whole) rest else some (.leaf, '\x7d' :: rest)
  | cs =>
    let (n, rest) := (read .statement cs).getD (.leaf, dropToken cs)
    andThen n (read (.statements whole)) rest

def block (cs : List Char) : Result :=
  match skip cs with
  | '\x7b' :: rest => do
    let (n, rest) ← read (.statements false) rest
    some (n, dropMark '\x7d' rest)
  | _ => none

def declarators (cs : List Char) : Result := do
  let (n, rest) ← read .item cs
  match skip rest with
  | ',' :: rest =>
    let (more, rest) := optional (read .declarators) rest
    some (.group [n, more], rest)
  | _ => some (n, rest)

def attributes (cs : List Char) : List Node × List Char :=
  match wordOnLine? cs with
  | some (word, rest) =>
    if word = "with" || word = "assert" then
      match skip rest with
      | '\x7b' :: rest =>
        let (n, rest) := optional (read (.members false)) rest
        ([n], rest)
      | _ => ([], cs)
    else ([], cs)
  | none => ([], cs)

/-- What an imported name is set equal to: a required module or another name. -/
def importAlias (cs : List Char) : Result :=
  match word? (skip cs) with
  | some ("require", rest) =>
    match skip rest with
    | '(' :: rest =>
      match literal? (skip rest) with
      | some (parts, rest) => some (.importFrom parts [], dropMark ')' rest)
      | none => some (.leaf, rest)
    | _ => some (.leaf, rest)
  | some (_, rest) => some (.leaf, rest)
  | none => none

def clause (exporting inside : Bool) (cs : List Char) : Result :=
  let cs := skip cs
  match literal? cs with
  | some (parts, rest) =>
    if inside then read (.clause exporting inside) rest
    else
      let (found, rest) := attributes read rest
      some (if exporting then .exportFrom parts found else .importFrom parts found, rest)
  | none =>
    match cs with
    | '\x7b' :: rest => read (.clause exporting true) rest
    | '\x7d' :: rest =>
      if !exporting then read (.clause exporting false) rest
      else match word? (skip rest) with
        | some ("from", rest) => read (.clause exporting false) rest
        | _ => some (.leaf, rest)
    | ',' :: rest => read (.clause exporting inside) rest
    | '*' :: rest => read (.clause exporting inside) rest
    | '=' :: rest => importAlias rest
    | _ =>
      match word? cs with
      | some (_, rest) => read (.clause exporting inside) rest
      | none => none

/-- Whether a declaration, and not an expression, follows `export default`. -/
def isDeclaration (cs : List Char) : Bool :=
  match word? (skip cs) with
  | some ("function", _) => true
  | some ("class", _) => true
  | some ("interface", _) => true
  | some ("abstract", rest) => (wordOnLine? rest).isSome
  | some ("async", rest) =>
    match wordOnLine? rest with
    | some (word, _) => word = "function"
    | none => false
  | some _ => false
  | none => meets ['@'] cs

def afterExport (cs : List Char) : Result :=
  if meets ['\x7b'] cs || meets ['*'] cs then read (.clause true false) cs
  else match skip cs with
  | '=' :: rest => read .expression rest
  | _ =>
    match word? (skip cs) with
    | some ("default", rest) =>
      if isDeclaration rest then some (.leaf, rest) else read .expression rest
    | some ("type", rest) =>
      if meets ['\x7b'] rest || meets ['*'] rest then read (.clause true false) rest
      else some (.leaf, cs)
    | some ("as", rest) => some (.leaf, dropToken (skip rest))
    | _ => some (.leaf, cs)

def afterInterface (cs : List Char) : Result :=
  let (types, rest) := optional (read .typeArguments) cs
  let (parents, rest) :=
    match word? (skip rest) with
    | some ("extends", rest) => optional (read .typeList) rest
    | _ => (.leaf, rest)
  match skip rest with
  | '\x7b' :: rest => do
    let (body, rest) ← read (.members true) rest
    some (.group [types, parents, body], rest)
  | _ => some (.group [types, parents], rest)

def afterType (cs : List Char) : Result :=
  let (types, rest) := optional (read .typeArguments) cs
  match skip rest with
  | '=' :: rest => do
    let (n, rest) ← read .type rest
    some (.group [types, n], rest)
  | _ => some (types, rest)

/-- The name of a module, a word with dots or a string. -/
def moduleName (cs : List Char) : List Char :=
  match literal? (skip cs) with
  | some (_, rest) => rest
  | none => (skip cs).dropWhile fun c => isWordChar c || c = '.'

/-- Whether the name of a module or its body stands on the rest of the line. -/
def startsModule (word : String) (cs : List Char) : Bool :=
  let g := gap cs
  !g.lineBreak &&
    ((word? g.rest).isSome || (literal? g.rest).isSome ||
      (word = "global" && g.rest.head? = some '\x7b'))

/-- A word and parentheses, of a statement whose other parts follow. -/
def header (word : String) (cs : List Char) : Result :=
  match skip cs with
  | '(' :: rest => read (.items ')') rest
  | _ => if word = "catch" then some (.leaf, cs) else none

/-- Statements that begin with a word of their own; none if the word begins an expression. -/
def keyword (word : String) (cs : List Char) : Result :=
  match word with
  | "import" =>
    if meets ['('] cs || meets ['.'] cs || meets ['<'] cs then none
    else read (.clause false false) cs
  | "export" => afterExport read cs
  | "function" =>
    let rest := dropMark '*' cs
    match word? (skip rest) with
    | some (_, rest) => read .callable rest
    | none => read .callable rest
  | "async" =>
    match wordOnLine? cs with
    | some ("function", _) => some (.leaf, cs)
    | _ => none
  | "class" => read .classTail cs
  | "if" => header read word cs
  | "while" => header read word cs
  | "switch" => header read word cs
  | "with" => header read word cs
  | "catch" => header read word cs
  | "for" =>
    match word? (skip cs) with
    | some ("await", rest) => header read word rest
    | _ => header read word cs
  | "else" => some (.leaf, cs)
  | "do" => some (.leaf, cs)
  | "try" => some (.leaf, cs)
  | "finally" => some (.leaf, cs)
  | "break" => some (.leaf, cs)
  | "continue" => some (.leaf, cs)
  | "debugger" => some (.leaf, cs)
  | "return" => if (gap cs).lineBreak then some (.leaf, cs) else some (optional (read .sequence) cs)
  | "throw" => some (optional (read .sequence) cs)
  | "case" => do
    let (n, rest) ← read .sequence cs
    some (n, dropMark ':' rest)
  | "const" =>
    match word? (skip cs) with
    | some ("enum", _) => some (.leaf, cs)
    | _ => read .declarators cs
  | "var" => read .declarators cs
  | "let" =>
    if (word? (skip cs)).isSome || meets ['['] cs || meets ['\x7b'] cs then read .declarators cs
    else none
  | "using" => if (wordOnLine? cs).isSome then read .declarators cs else none
  | "await" =>
    match wordOnLine? cs with
    | some ("using", rest) => if (wordOnLine? rest).isSome then some (.leaf, cs) else none
    | _ => none
  | "type" =>
    match wordOnLine? cs with
    | some (_, rest) => afterType read rest
    | none => none
  | "interface" =>
    match wordOnLine? cs with
    | some (_, rest) => afterInterface read rest
    | none => none
  | "enum" =>
    match wordOnLine? cs with
    | some (_, rest) =>
      match skip rest with
      | '\x7b' :: rest => read (.members false) rest
      | _ => some (.leaf, rest)
    | none => none
  | "declare" => if (wordOnLine? cs).isSome then some (.leaf, cs) else none
  | "abstract" => if (wordOnLine? cs).isSome then some (.leaf, cs) else none
  | _ =>
    if word = "namespace" || word = "module" || word = "global" then
      if startsModule word cs then some (optional (read .block) (moduleName cs)) else none
    else none

def statement (cs : List Char) : Result :=
  match cs with
  | ';' :: rest => some (.leaf, rest)
  | '\x7b' :: _ => read .block cs
  | '@' :: rest => read .decorator rest
  | _ =>
    match word? cs with
    | none => read .sequence cs
    | some (word, rest) =>
      match keyword read word rest with
      | some found => some found
      | none =>
        match skip rest with
        | ':' :: rest => some (.leaf, rest)
        | _ => read .sequence cs

end AmbientTypes.Syntax.Statement
