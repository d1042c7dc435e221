import AmbientTypes.Syntax.Goal

namespace AmbientTypes.Syntax.Expression

variable (read : Goal → Reader)

def sequence (cs : List Char) : Result := do
  let (n, rest) ← read .expression cs
  match skip rest with
  | ',' :: rest =>
    let (more, rest) := optional (read .sequence) rest
    some (.group [n, more], rest)
  | _ => some (n, rest)

def expression (cs : List Char) : Result := do
  let (n, rest) ← read .operand cs
  read (.operators [n]) rest

/-- A mark of an optional parameter stands where a choice has its first branch. -/
def isOptionalMark (cs : List Char) : Bool :=
  match skip cs with
  | ':' :: _ => true
  | ',' :: _ => true
  | ')' :: _ => true
  | '=' :: '>' :: _ => false
  | '=' :: _ => true
  | _ => false

/-- Operators and operands stand side by side, since precedence does not change the order of the
text. -/
def operators (found : List Node) (cs : List Char) : Result :=
  let done := some (Node.ofList found.reverse, cs)
  match operator? (gap cs) with
  | none => done
  | some (.binary, rest) =>
    match read .operand rest with
    | some (n, rest) => read (.operators (n :: found)) rest
    | none => done
  | some (.typed, rest) =>
    match read .type rest with
    | some (n, rest) => read (.operators (n :: found)) rest
    | none => done
  | some (.choice, rest) =>
    if isOptionalMark rest then some (Node.ofList (.leaf :: found).reverse, rest)
    else
      match read .expression rest with
      | none => done
      | some (n, rest) =>
        match skip rest with
        | ':' :: rest =>
          let (m, rest) := optional (read .operand) rest
          read (.operators (m :: n :: found)) rest
        | _ => read (.operators (n :: found)) rest
  | some (.arrow, rest) =>
    let (n, rest) :=
      if meets ['\x7b'] rest then optional (read .block) rest
      else optional (read .expression) rest
    some (.group (n :: found).reverse, rest)

/-- The type behind a parameter list, if an arrow follows. -/
def arrowType? (cs : List Char) : Result :=
  match skip cs with
  | ':' :: rest =>
    match read .type rest with
    | some (t, rest) => if meets ['=', '>'] rest then some (t, rest) else none
    | none => none
  | _ => none

/-- A parameter list, or an expression in parentheses, from behind its opening mark. -/
def parentheses (cs : List Char) : Result := do
  let (n, rest) ← read (.items ')') cs
  match arrowType? read rest with
  | some (t, rest) => some (.group [n, t], rest)
  | none => some (n, rest)

/-- A function with an arrow: type parameters, parameters and result type. -/
def arrowHead (cs : List Char) : Result := do
  let (types, rest) := optional (read .typeArguments) cs
  match skip rest with
  | '(' :: rest =>
    let (n, rest) ← parentheses read rest
    if meets ['=', '>'] rest then some (.group [types, n], rest) else none
  | _ => none

/-- Whether a word is an operator or separates what stands around it. -/
def isOperatorWord (word : String) : Bool :=
  ["in", "of", "instanceof", "as", "satisfies", "is", "extends", "implements"].contains word

/-- What follows the word `async` in an expression. Parentheses hold parameters if an arrow comes
after them, and else arguments. -/
def afterAsync (cs : List Char) : Result :=
  match wordOnLine? cs with
  | some ("function", _) => read .operand cs
  | some (word, rest) =>
    if isOperatorWord word then read (.suffixes true (.name "async")) cs
    else some (.group [.name "async", .name word], rest)
  | none =>
    let (types, rest) := optional (read .typeArguments) cs
    match skip rest with
    | '(' :: rest => do
      let (n, rest) ← read (.items ')') rest
      match arrowType? read rest with
      | some (t, rest) => some (.group [types, n, t], rest)
      | none =>
        if meets ['=', '>'] rest then some (.group [types, n], rest)
        else read (.suffixes true (.call (.name "async") [types] n.children)) rest
    | _ => read (.suffixes true (.name "async")) cs

def construction (n : Node) (cs : List Char) : Result :=
  let (types, rest) := optional (read .typeArguments) cs
  match skip rest with
  | '(' :: rest => do
    let (arguments, rest) ← read (.items ')') rest
    some (.group [n, types, arguments], rest)
  | _ => some (.group [n], cs)

def afterNew (cs : List Char) : Result := do
  let cs := skip cs
  let (n, rest) ←
    match cs with
    | '.' :: rest => some (.leaf, dropToken (skip rest))
    | _ =>
      match word? cs with
      | some ("new", _) => read .operand cs
      | some ("function", _) => read .operand cs
      | some ("class", _) => read .operand cs
      | some ("import", rest) => read (.suffixes false .importWord) rest
      | some (word, rest) => read (.suffixes false (.name word)) rest
      | none => do
        let (n, rest) ← read .primary cs
        read (.suffixes false n) rest
  let (n, rest) ← construction read n rest
  read (.suffixes true n) rest

def afterFunction (cs : List Char) : Result :=
  let rest := dropMark '*' cs
  match word? (skip rest) with
  | some (_, rest) => read .callable rest
  | none => read .callable rest

def isUnaryWord (word : String) : Bool :=
  ["typeof", "void", "delete", "await", "yield"].contains word

def wordOperand (word : String) (cs : List Char) : Result :=
  if isUnaryWord word then
    match read .operand (if word = "yield" then dropMark '*' cs else cs) with
    | some (n, rest) => some (.group [n], rest)
    | none => read (.suffixes true (.name word)) cs
  else match word with
  | "new" => afterNew read cs
  | "async" => afterAsync read cs
  | "function" => do
    let (n, rest) ← afterFunction read cs
    read (.suffixes true n) rest
  | "class" => do
    let (n, rest) ← read .classTail cs
    read (.suffixes true n) rest
  | "import" => read (.suffixes true .importWord) cs
  | _ => read (.suffixes true (.name word)) cs

/-- An operand behind a mark that belongs to it. -/
def prefixed (cs : List Char) : Result := do
  let (n, rest) ← read .operand cs
  some (.group [n], rest)

def operand (cs : List Char) : Result :=
  match skip cs with
  | '.' :: '.' :: '.' :: rest => do
    let (n, rest) ← read .expression rest
    some (.group [n], rest)
  | '+' :: '+' :: rest => prefixed read rest
  | '-' :: '-' :: rest => prefixed read rest
  | '+' :: rest => prefixed read rest
  | '-' :: rest => prefixed read rest
  | '!' :: rest => prefixed read rest
  | '~' :: rest => prefixed read rest
  | '@' :: rest => read .decorator rest
  | cs =>
    match word? cs with
    | some (word, rest) => wordOperand read word rest
    | none => do
      let (n, rest) ← read .primary cs
      read (.suffixes true n) rest

/-- Whether type parameters stand behind an opening angle, and not the name of an element. -/
def isGeneric (cs : List Char) : Bool :=
  match word? (skip cs) with
  | none => false
  | some (word, rest) =>
    match skip rest with
    | ',' :: _ => true
    | rest =>
      match word? rest with
      | some (next, rest) =>
        word = "const" ||
          (next = "extends" && !(meets ['='] rest || meets ['>'] rest || meets ['/'] rest))
      | none => false

def primary (cs : List Char) : Result :=
  match cs with
  | '(' :: rest => parentheses read rest
  | '[' :: rest => read (.items ']') rest
  | '\x7b' :: rest => read (.members false) rest
  | '\x60' :: rest => read .template rest
  | '<' :: rest => if isGeneric rest then arrowHead read cs else read .element rest
  | '/' :: rest => (patternTail false rest).map fun rest => (.leaf, (wordTail rest).2)
  | _ =>
    match literal? cs with
    | some (parts, rest) => some (.literal parts, rest)
    | none => (number? cs).map (.leaf, ·)

/-- A call from behind the mark that opens its arguments. -/
def call (callee : Node) (types : List Node) (cs : List Char) : Result := do
  let (arguments, rest) ← read (.items ')') cs
  read (.suffixes true (.call callee types arguments.children)) rest

/-- Whether type arguments may end in front of a text. -/
def endsInstance (cs : List Char) : Bool :=
  match skip cs with
  | [] => true
  | c :: _ => !(isWordChar c || ['"', '\'', '[', '+', '-', '!', '~', '/', '<', '#', '@'].contains c)

/-- Type arguments behind an expression, with the call that follows. -/
def instance? (calls : Bool) (n : Node) (cs : List Char) : Result :=
  match read .typeArguments cs with
  | none => none
  | some (types, rest) =>
    match skip rest with
    | '(' :: rest => if calls then call read n [types] rest else none
    | '\x60' :: rest => do
      let (t, rest) ← read .template rest
      read (.suffixes calls (.group [n, types, t])) rest
    | _ => if endsInstance rest then read (.suffixes calls (.group [n, types])) rest else none

def chain (calls : Bool) (n : Node) (cs : List Char) : Result :=
  match skip cs with
  | '(' :: rest => if calls then call read n [] rest else none
  | '<' :: _ => instance? read calls n cs
  | '[' :: rest => do
    let (i, rest) ← read (.items ']') rest
    read (.suffixes calls (.group [n, i])) rest
  | '\x60' :: rest => do
    let (t, rest) ← read .template rest
    read (.suffixes calls (.group [n, t])) rest
  | cs =>
    match word? cs with
    | some (_, rest) => read (.suffixes calls (.group [n])) rest
    | none => none

def suffixes (calls : Bool) (n : Node) (cs : List Char) : Result :=
  let g := gap cs
  let done := some (n, cs)
  match g.rest with
  | '.' :: rest =>
    match word? (skip rest) with
    | some (_, rest) => read (.suffixes calls (.group [n])) rest
    | none => done
  | '?' :: '.' :: rest =>
    if rest.head?.any Char.isDigit then done else (chain read calls n rest).or done
  | '[' :: rest => do
    let (i, rest) ← read (.items ']') rest
    read (.suffixes calls (.group [n, i])) rest
  | '(' :: rest => if calls then call read n [] rest else done
  | '\x60' :: rest => do
    let (t, rest) ← read .template rest
    read (.suffixes calls (.group [n, t])) rest
  | '!' :: rest =>
    if g.lineBreak || rest.head? = some '=' then done else read (.suffixes calls (.group [n])) rest
  | '+' :: '+' :: rest => if g.lineBreak then done else some (.group [n], rest)
  | '-' :: '-' :: rest => if g.lineBreak then done else some (.group [n], rest)
  | '<' :: _ => if calls then (instance? read calls n cs).or done else done
  | _ => done

/-- An expression, and a type and a value where they follow. -/
def item (cs : List Char) : Result := do
  let (n, rest) ← read .expression cs
  match skip rest with
  | ':' :: rest =>
    let (t, rest) := optional (read .type) rest
    read (.operators [t, n]) rest
  | _ => some (n, rest)

def items (close : Char) (cs : List Char) : Result :=
  let g := gap cs
  let comments := List.replicate g.comments Node.comment
  match g.rest with
  | [] => some (.group comments, [])
  | c :: rest =>
    if c = close then some (.group comments, rest)
    else
      let (here, rest) :=
        if c = ',' || c = ';' then ([], rest)
        else match read .item g.rest with
          | some (n, rest) => ([n], rest)
          | none => ([], dropToken g.rest)
      let (more, rest) := optional (read (.items close)) rest
      some (.group (comments ++ here ++ more.children), rest)

def template (cs : List Char) : Result :=
  match templateText cs with
  | none => none
  | some (true, rest) => some (.leaf, rest)
  | some (false, rest) => do
    let (n, rest) ← read (.items '\x7d') rest
    andThen n (read .template) rest

/-- One member, or a part of one, from its first token on. -/
def memberPart (typed : Bool) (cs : List Char) : Result :=
  match cs with
  | '.' :: '.' :: '.' :: rest => read .expression rest
  | '@' :: rest => read .decorator rest
  | '\x7b' :: _ => read .block cs
  | ':' :: rest => if typed then read .type rest else read .expression rest
  | '=' :: rest => read .expression rest
  | '(' :: _ => read .callable cs
  | '<' :: _ => read .callable cs
  | '[' :: rest => read (.items ']') rest
  | _ =>
    match literal? cs with
    | some (_, rest) => some (.leaf, rest)
    | none => none

def members (typed : Bool) (cs : List Char) : Result :=
  match skip cs with
  | [] => some (.leaf, [])
  | '\x7d' :: rest => some (.leaf, rest)
  | cs =>
    let (n, rest) := (memberPart read typed cs).getD (.leaf, dropToken cs)
    andThen n (read (.members typed)) rest

def callable (cs : List Char) : Result :=
  let (types, rest) := optional (read .typeArguments) cs
  match skip rest with
  | '(' :: rest => do
    let (parameters, rest) ← read (.items ')') rest
    let (result, rest) :=
      match skip rest with
      | ':' :: rest => optional (read .type) rest
      | _ => (.leaf, rest)
    let (body, rest) := optional (read .block) rest
    some (.group [types, parameters, result, body], rest)
  | _ => none

def dottedTail : Nat → List Char → List Char
  | 0, cs => cs
  | fuel + 1, cs =>
    match skip cs with
    | '.' :: rest =>
      match word? (skip rest) with
      | some (_, rest) => dottedTail fuel rest
      | none => cs
    | _ => cs

def decorator (cs : List Char) : Result :=
  match skip cs with
  | '(' :: rest => read (.items ')') rest
  | cs =>
    match word? cs with
    | none => none
    | some (word, rest) =>
      let after := dottedTail rest.length rest
      let callee := if after.length = rest.length then Node.name word else .group [.name word]
      let (types, behind) := optional (read .typeArguments) after
      match skip behind with
      | '(' :: rest => do
        let (arguments, rest) ← read (.items ')') rest
        some (.call callee [types] arguments.children, rest)
      | _ => some (callee, after)

def classTail (cs : List Char) : Result :=
  let rest :=
    match word? (skip cs) with
    | some (word, rest) => if word = "extends" || word = "implements" then cs else rest
    | none => cs
  let (types, rest) := optional (read .typeArguments) rest
  let (parent, rest) :=
    match word? (skip rest) with
    | some ("extends", rest) => optional (read .operand) rest
    | _ => (.leaf, rest)
  let (interfaces, rest) :=
    match word? (skip rest) with
    | some ("implements", rest) => optional (read .typeList) rest
    | _ => (.leaf, rest)
  match skip rest with
  | '\x7b' :: rest => do
    let (body, rest) ← read (.members true) rest
    some (.group [types, parent, interfaces, body], rest)
  | _ => some (.group [types, parent, interfaces], rest)

end AmbientTypes.Syntax.Expression
