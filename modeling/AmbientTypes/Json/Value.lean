import AmbientTypes.Decimal.Number
import AmbientTypes.Text.Quoted

namespace AmbientTypes

inductive Json where
  | null
  | bool (b : Bool)
  | number (n : Number)
  | string (s : String)
  | array (items : List Json)
  | object (members : List (String × Json))
  deriving Inhabited

namespace Json

def int (n : Int) : Json := .number (.int n)

def find? (name : String) (members : List (String × Json)) : Option Json :=
  (members.find? fun m => m.1 = name).map (·.2)

/-- Gives a name a value: in its place if the name is there, else at the end. -/
def put (name : String) (value : Json) : List (String × Json) → List (String × Json)
  | [] => [(name, value)]
  | m :: members =>
    if m.1 = name then (name, value) :: members else m :: put name value members

def get? (name : String) : Json → Option Json
  | object members => find? name members
  | _ => none

/-- Null, false, zero and everything empty count as absent. -/
def isBlank : Json → Bool
  | null => true
  | bool b => !b
  | number (.int n) => n = 0
  | number (.float x) => x == 0
  | string s => s.isEmpty
  | array items => items.isEmpty
  | object members => members.isEmpty

def string? : Json → Option String
  | string s => some s
  | _ => none

mutual

/-- A value inside a message, texts in quotes. -/
def shown : Json → String
  | null => "None"
  | bool true => "True"
  | bool false => "False"
  | number n => n.text
  | string s => Text.quote s
  | array items => "[" ++ shownItems items ++ "]"
  | object members => "\x7b" ++ shownMembers members ++ "\x7d"

def shownItems : List Json → String
  | [] => ""
  | [v] => shown v
  | v :: vs => shown v ++ ", " ++ shownItems vs

def shownMembers : List (String × Json) → String
  | [] => ""
  | [(k, v)] => Text.quote k ++ ": " ++ shown v
  | (k, v) :: ms => Text.quote k ++ ": " ++ shown v ++ ", " ++ shownMembers ms

end

/-- A value as a message of its own: a text stands without quotes. -/
def plain : Json → String
  | string s => s
  | v => shown v

end Json

end AmbientTypes
