import AmbientTypes.Text.Affix
import AmbientTypes.Text.Quoted

namespace AmbientTypes.CommandLine

inductive UsageFault where
  | noSuchOption (name : String)
  | valueNeeded (name : String)
  | valueGiven (name : String)
  | noSuchCommand (name : String)
  | noCommand
  | missing (argument : String)
  | extra (arguments : List String)
  | notWhole (option value : String)
  | notNumber (option value : String)
  deriving DecidableEq, Repr

def UsageFault.message : UsageFault → String
  | noSuchOption name => s!"No such option {Text.quote name}."
  | valueNeeded name => s!"Option {Text.quote name} requires an argument."
  | valueGiven name => s!"Option {Text.quote name} does not take a value."
  | noSuchCommand name => s!"No such command {Text.quote name}."
  | noCommand => "Missing command."
  | missing argument => s!"Missing argument '{argument}'."
  | extra arguments =>
    let noun := if arguments.length = 1 then "argument" else "arguments"
    "Got unexpected extra " ++ noun ++ " (" ++ " ".intercalate arguments ++ ")"
  | notWhole option value =>
    s!"Invalid value for '{option}': {Text.quote value} is not a valid integer."
  | notNumber option value =>
    s!"Invalid value for '{option}': {Text.quote value} is not a valid float."

structure Choice (α : Type) where
  option : α
  names : List String
  takesValue : Bool

/-- Options with their values, in order, and the other arguments. -/
structure Arguments (α : Type) where
  options : List (α × String)
  operands : List String

namespace Arguments

variable {α : Type}

def addOption (option : α) (value : String) (a : Arguments α) : Arguments α :=
  { a with options := (option, value) :: a.options }

def addOperand (operand : String) (a : Arguments α) : Arguments α :=
  { a with operands := operand :: a.operands }

def find? (choices : List (Choice α)) (name : String) : Option (Choice α) :=
  choices.find? (·.names.contains name)

/-- The options with a name of one letter behind a dash, up to one that takes a value; it takes the
letters after it, if there are any. -/
def readLetters (choices : List (Choice α)) :
    List Char → Except UsageFault (List (α × String) × Option (Choice α × String))
  | [] => .ok ([], none)
  | c :: cs =>
    let name := String.ofList ['-', c]
    match find? choices name with
    | none => .error (.noSuchOption name)
    | some choice =>
      if choice.takesValue then
        if cs.isEmpty then .ok ([], some (choice, name))
        else .ok ([(choice.option, String.ofList cs)], none)
      else (readLetters choices cs).map fun r => ((choice.option, "") :: r.1, r.2)

def isOption (argument : String) : Bool :=
  Text.startsWith "-" argument && 1 < argument.length

/-- Whether a name is longer than a dash and a letter. -/
def isLongName (name : String) : Bool := 2 < name.length

/-- Reads arguments. Where operands do not mix with options, the first one ends the options. -/
def read (choices : List (Choice α)) (mixed : Bool) : List String →
    Except UsageFault (Arguments α)
  | [] => .ok ⟨[], []⟩
  | argument :: rest =>
    if argument = "--" then .ok ⟨[], rest⟩
    else if !isOption argument then
      if mixed then (read choices mixed rest).map (addOperand argument)
      else .ok ⟨[], argument :: rest⟩
    else
      let (name, value) := Text.cut '=' argument.toList
      let name := String.ofList name
      match (find? choices name).filter fun _ => isLongName name with
      | some choice =>
        match choice.takesValue, value.map String.ofList, rest with
        | false, none, rest => (read choices mixed rest).map (addOption choice.option "")
        | false, some _, _ => .error (.valueGiven name)
        | true, some value, rest =>
          (read choices mixed rest).map (addOption choice.option value)
        | true, none, value :: rest =>
          (read choices mixed rest).map (addOption choice.option value)
        | true, none, [] => .error (.valueNeeded name)
      | none =>
        if Text.startsWith "--" argument then .error (.noSuchOption name)
        else match readLetters choices (argument.toList.drop 1), rest with
          | .error e, _ => .error e
          | .ok (found, none), rest =>
            (read choices mixed rest).map fun a => { a with options := found ++ a.options }
          | .ok (found, some (choice, _)), value :: rest =>
            (read choices mixed rest).map fun a =>
              { a with options := found ++ (choice.option, value) :: a.options }
          | .ok (_, some (_, name)), [] => .error (.valueNeeded name)

/-- The options that are given, each once with its last value, in the order of their first
places. -/
def settled [BEq α] (a : Arguments α) : List (α × String) :=
  (a.options.map (·.1)).eraseDups.filterMap fun option =>
    (a.options.reverse.lookup option).map fun value => (option, value)

def has [BEq α] (a : Arguments α) (option : α) : Bool := a.options.any fun o => o.1 == option

end Arguments

end AmbientTypes.CommandLine
