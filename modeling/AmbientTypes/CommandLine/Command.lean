import AmbientTypes.CommandLine.Usage
import AmbientTypes.Decimal.Reading
import AmbientTypes.Json.Value
import AmbientTypes.Text.Word

namespace AmbientTypes.CommandLine

inductive CommonOption where
  | verbose
  | registry
  | concurrency
  | timeout
  | help
  deriving DecidableEq, Repr

inductive TaskOption where
  | output
  | help
  deriving DecidableEq, Repr

inductive TaskKind where
  | deps
  | resolve
  | builtins
  deriving DecidableEq, Repr

/-- What is to be done. A source is a path or a dash for the standard input; documents go below a
directory, or else to the standard output. -/
inductive Task where
  | deps (source : String)
  | resolve (source : String) (output : Option String)
  | builtins (tags : List String) (output : Option String)
  deriving DecidableEq, Repr

inductive Asked (α : Type) where
  | help
  | found (a : α)

namespace TaskKind

def name : TaskKind → String
  | deps => "deps"
  | resolve => "resolve"
  | builtins => "builtins"

def ofName? (name : String) : Option TaskKind :=
  [deps, resolve, builtins].find? fun kind => kind.name = name

def usage : TaskKind → String
  | deps => "deps [OPTIONS] SOURCE"
  | resolve => "resolve [OPTIONS] SOURCE"
  | builtins => "builtins [OPTIONS] [TAGS]..."

def choices (kind : TaskKind) : List (Choice TaskOption) :=
  (if kind = deps then [] else [⟨.output, ["-o", "--output"], true⟩]) ++
    [⟨.help, ["--help"], false⟩]

end TaskKind

def commonChoices : List (Choice CommonOption) := [
  ⟨.verbose, ["-v", "--verbose"], false⟩, ⟨.registry, ["--registry"], true⟩,
  ⟨.concurrency, ["--concurrency"], true⟩, ⟨.timeout, ["--timeout"], true⟩,
  ⟨.help, ["--help"], false⟩]

def setting (option : CommonOption) (value : String) :
    Except UsageFault (Option (String × Json)) :=
  match option with
  | .verbose => .ok (some ("verbose", .bool true))
  | .registry => .ok (some ("registry", .string value))
  | .concurrency =>
    match Decimal.readInt value.toList with
    | some n => .ok (some ("max_concurrency", Json.int n))
    | none => .error (.notWhole "--concurrency" value)
  | .timeout =>
    match Decimal.readFloat value.toList with
    | some x => .ok (some ("request_timeout", .number (.float x)))
    | none => .error (.notNumber "--timeout" value)
  | .help => .ok none

def readCommon (arguments : List String) :
    Except UsageFault (Asked (List (String × Json) × List String)) := do
  let a ← Arguments.read commonChoices false arguments
  if a.has .help then return .help
  let settings ← a.settled.mapM fun o => setting o.1 o.2
  return .found (settings.filterMap id, a.operands)

def looksLikeOption (name : String) : Bool :=
  match name.toList with
  | [] => false
  | c :: _ => !Text.isLetterOrNumber c

/-- The kind of a task by its name. A name with the look of an option is read as one first. -/
def readKind (arguments : List String) : Except UsageFault (Asked (TaskKind × List String)) :=
  match arguments with
  | [] => .error .noCommand
  | name :: rest =>
    match TaskKind.ofName? name with
    | some kind => .ok (.found (kind, rest))
    | none => do
      if looksLikeOption name then
        match (← readCommon (name :: rest)) with
        | .help => return .help
        | .found _ => throw (.noSuchCommand name)
      else throw (.noSuchCommand name)

def readSource (operands : List String) : Except UsageFault String :=
  match operands with
  | [] => .error (.missing "SOURCE")
  | [source] => .ok source
  | _ :: extra => .error (.extra extra)

def readTask (kind : TaskKind) (arguments : List String) : Except UsageFault (Asked Task) := do
  let a ← Arguments.read kind.choices true arguments
  if a.has .help then return .help
  let output := a.settled.lookup .output
  match kind with
  | .deps => return .found (.deps (← readSource a.operands))
  | .resolve => return .found (.resolve (← readSource a.operands) output)
  | .builtins => return .found (.builtins a.operands output)

end AmbientTypes.CommandLine
