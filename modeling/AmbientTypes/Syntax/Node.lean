namespace AmbientTypes.Syntax

/-- A piece of a string literal as the source spells it. -/
inductive Part where
  | fragment (text : List Char)
  | escape (sequence : List Char)
  deriving DecidableEq, Repr

inductive Node where
  | name (text : String)
  /-- The word that a dynamic import calls. -/
  | importWord
  | comment
  | literal (parts : List Part)
  | group (members : List Node)
  | call (callee : Node) (types : List Node) (arguments : List Node)
  /-- An import from a module, with the attributes of the import. -/
  | importFrom (source : List Part) (attributes : List Node)
  | exportFrom (source : List Part) (attributes : List Node)
  deriving Repr, Inhabited

namespace Node

def leaf : Node := group []

/-- What a node holds, in the order of the text. -/
def children : Node → List Node
  | group members => members
  | call callee types arguments => callee :: types ++ arguments
  | importFrom _ attributes => attributes
  | exportFrom _ attributes => attributes
  | _ => []

def ofList : List Node → Node
  | [n] => n
  | ns => group ns

mutual

def size : Node → Nat
  | name _ => 1
  | importWord => 1
  | comment => 1
  | literal _ => 1
  | group members => sizes members + 1
  | call callee types arguments => size callee + sizes types + sizes arguments + 1
  | importFrom _ attributes => sizes attributes + 1
  | exportFrom _ attributes => sizes attributes + 1

def sizes : List Node → Nat
  | [] => 0
  | n :: ns => size n + sizes ns

end

mutual

/-- All nodes of a tree, each before what it holds. -/
def preorder : Node → List Node
  | name text => [name text]
  | importWord => [importWord]
  | comment => [comment]
  | literal parts => [literal parts]
  | group members => group members :: preorders members
  | call callee types arguments =>
    call callee types arguments :: (preorder callee ++ preorders types ++ preorders arguments)
  | importFrom source attributes => importFrom source attributes :: preorders attributes
  | exportFrom source attributes => exportFrom source attributes :: preorders attributes

def preorders : List Node → List Node
  | [] => []
  | n :: ns => preorder n ++ preorders ns

end

theorem sizes_append (ns ms : List Node) : sizes (ns ++ ms) = sizes ns + sizes ms := by
  induction ns with
  | nil => simp [sizes]
  | cons n ns ih => simp [sizes, ih, Nat.add_assoc]

theorem sizes_children (n : Node) : sizes n.children < n.size := by
  cases n <;> simp [children, size, sizes, sizes_append]
  omega

/-- All nodes of the trees on a stack, the top first. -/
def walk (stack : List Node) : List Node :=
  match stack with
  | [] => []
  | n :: rest => n :: walk (n.children ++ rest)
termination_by sizes stack
decreasing_by
  have := sizes_children n
  simp only [sizes_append, sizes]
  omega

end Node

end AmbientTypes.Syntax
