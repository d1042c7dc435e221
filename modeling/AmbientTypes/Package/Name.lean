namespace AmbientTypes.Package

/-- A name as a variable: every character but ASCII letters and digits becomes an underscore, and
one stands in front where the name is empty or begins with a digit. -/
def variableName (name : String) : String :=
  let cs := name.toList.map fun c => if c.isAlphanum then c else '_'
  match cs with
  | [] => "_"
  | c :: _ => String.ofList (if c.isDigit then '_' :: cs else cs)

def replaceFirst (mark : Char) (new : List Char) : List Char → List Char
  | [] => []
  | c :: cs => if c = mark then new ++ cs else c :: replaceFirst mark new cs

/-- A scoped name as one segment: `@scope/name` becomes `scope__name`. -/
def flatName (name : String) : String :=
  String.ofList (replaceFirst '/' ['_', '_'] (replaceFirst '@' [] name.toList))

def typesScope : String := "@types/"

/-- The package that declares the types of another one. -/
def typesPackage (name : String) : String := typesScope ++ flatName name

end AmbientTypes.Package
