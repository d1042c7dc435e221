import AmbientTypes.Syntax.Escape
import AmbientTypes.Syntax.Parse

namespace AmbientTypes.Syntax

/-- The words that load a module when they are called. -/
def Node.isLoader : Node → Bool
  | .importWord => true
  | .name text => text = "require"
  | _ => false

/-- The literal that names the module which a node loads. -/
def Node.specifier? : Node → Option (List Part)
  | .importFrom source _ => some source
  | .exportFrom source _ => some source
  | .call callee _ (.literal parts :: _) => if callee.isLoader then some parts else none
  | _ => none

/-- An escape in the name of a module spells too large a number. -/
structure EscapeFault where
  deriving DecidableEq, Repr

def EscapeFault.message (_ : EscapeFault) : String :=
  "Python int too large to convert to C int"

def Node.specifiers (root : Node) : Except EscapeFault (List Text.Points) :=
  match ((walk [root]).filterMap specifier?).mapM literalValue? with
  | some found => .ok found.eraseDups
  | none => .error ⟨⟩

def importSpecifiers (source : String) : Except EscapeFault (List Text.Points) :=
  (outline source.toList).specifiers

end AmbientTypes.Syntax
