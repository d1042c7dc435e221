import AmbientTypes.Syntax.Token

namespace AmbientTypes.Syntax

/-- What is to be read at some place of a text. -/
inductive Goal where
  /-- Statements up to a closing brace, or to the end of the whole text. -/
  | statements (whole : Bool)
  | statement
  | declarators
  /-- The clause of an import or export, outside or inside its braces. -/
  | clause (exporting inside : Bool)
  | block
  /-- Parameters, result type and body of a function. -/
  | callable
  | decorator
  | classTail
  /-- Members in braces; behind a colon stands a type or a value. -/
  | members (typed : Bool)
  | sequence
  | expression
  /-- What follows the operands found so far, the last one first. -/
  | operators (found : List Node)
  | operand
  | primary
  /-- What follows a primary expression, calls included or not. -/
  | suffixes (calls : Bool) (n : Node)
  /-- Expressions with or without types up to a closing mark. -/
  | items (close : Char)
  | item
  /-- A template from a place inside its text. -/
  | template
  | element
  | attributes
  /-- The content of an element and its closing tag. -/
  | markup
  | type
  | typeOperand
  /-- What follows the name of a type or of a value in a type. -/
  | typeName (calls : Bool) (n : Node)
  | typeSuffixes (n : Node)
  /-- Types with or without names up to a closing mark. -/
  | typeItems (close : Char)
  | typeArguments
  /-- Type arguments behind their opening mark. -/
  | typeArgument
  | typeList

/-- A node and the text behind it. -/
abbrev Result := Option (Node × List Char)

abbrev Reader := List Char → Result

def optional (read : Reader) (cs : List Char) : Node × List Char := (read cs).getD (.leaf, cs)

def andThen (n : Node) (read : Reader) (cs : List Char) : Result := do
  let (more, rest) ← read cs
  some (.group (n :: more.children), rest)

end AmbientTypes.Syntax
