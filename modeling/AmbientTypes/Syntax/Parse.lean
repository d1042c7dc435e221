import AmbientTypes.Syntax.Expression
import AmbientTypes.Syntax.Markup
import AmbientTypes.Syntax.Statement
import AmbientTypes.Syntax.Types

namespace AmbientTypes.Syntax

/-- The rule of a goal, with a reader for what it is made of. -/
def rule (read : Goal → Reader) : Goal → Reader
  | .statements whole => Statement.statements read whole
  | .statement => Statement.statement read
  | .declarators => Statement.declarators read
  | .clause exporting inside => Statement.clause read exporting inside
  | .block => Statement.block read
  | .callable => Expression.callable read
  | .decorator => Expression.decorator read
  | .classTail => Expression.classTail read
  | .members typed => Expression.members read typed
  | .sequence => Expression.sequence read
  | .expression => Expression.expression read
  | .operators found => Expression.operators read found
  | .operand => Expression.operand read
  | .primary => Expression.primary read
  | .suffixes calls n => Expression.suffixes read calls n
  | .items close => Expression.items read close
  | .item => Expression.item read
  | .template => Expression.template read
  | .element => Markup.element read
  | .attributes => Markup.attributes read
  | .markup => Markup.markup read
  | .type => Types.type read
  | .typeOperand => Types.typeOperand read
  | .typeName calls n => Types.typeName read calls n
  | .typeSuffixes n => Types.typeSuffixes read n
  | .typeItems close => Types.typeItems read close
  | .typeArguments => Types.typeArguments read
  | .typeArgument => Types.typeArgument read
  | .typeList => Types.typeList read

/-- Reads a goal with at most `depth` steps inside each other. -/
def readGoal : (depth : Nat) → Goal → Reader
  | 0, _, _ => none
  | depth + 1, goal, cs => rule (readGoal depth) goal cs

/-- A text without the line that names its interpreter. -/
def dropInterpreter : List Char → List Char
  | '#' :: '!' :: cs => cs.dropWhile fun c => !isLineBreak c
  | cs => cs

/-- More steps than a text of the given length can need inside each other. -/
def depthFor (length : Nat) : Nat := 16 * (length + 4)

def outline (cs : List Char) : Node :=
  (optional (readGoal (depthFor cs.length) (.statements true)) (dropInterpreter cs)).1

end AmbientTypes.Syntax
