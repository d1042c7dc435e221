import AmbientTypes.Settings.Basic
import AmbientTypes.Text.Lowercase

namespace AmbientTypes.Settings

abbrev Environment := List (String × String)

/-- The value of a variable that is not empty. -/
def Environment.text? (env : Environment) (name : String) : Option String :=
  (env.lookup name).filter (!·.isEmpty)

def onWords : List String := ["1", "true", "yes", "on"]

def isOn (s : String) : Bool := onWords.contains (Text.lower (Text.strip s))

def tagsOf (s : String) : List String :=
  ((Text.splitAt ',' s.toList).map fun tag => Text.strip (String.ofList tag)).filter
    (!·.isEmpty)

/-- A switch for each known tag and each listed one; the listed ones are on. -/
def switches (listed : List String) : Json :=
  let tags := (Package.builtins.map (·.1) ++ listed).eraseDups
  .object (tags.map fun tag => (tag, .bool (listed.contains tag)))

/-- A setting that the environment may give. -/
def given (name : String) (value : Option Json) : List (String × Json) :=
  (value.map fun v => (name, v)).toList

def Environment.values (env : Environment) : List (String × Json) :=
  given "registry" ((env.text? "AUTOTYPINGS_REGISTRY").map .string) ++
    given "max_concurrency" ((env.text? "AUTOTYPINGS_MAX_CONCURRENCY").map .string) ++
    given "request_timeout" ((env.text? "AUTOTYPINGS_REQUEST_TIMEOUT").map .string) ++
    given "verbose" ((env.text? "AUTOTYPINGS_VERBOSE").map fun s => .bool (isOn s)) ++
    given "builtins" ((env.lookup "AUTOTYPINGS_BUILTINS").map fun s => switches (tagsOf s))

/-- Puts values before others; null gives none. -/
def override (values : List (String × Json)) : List (String × Json) → List (String × Json)
  | [] => values
  | (_, .null) :: rest => override values rest
  | (name, v) :: rest => override (Json.put name v values) rest

/-- Settings from the environment and from values that go before it. -/
def fromEnvironment (env : Environment) (overrides : List (String × Json)) : Checked Settings :=
  ofValues (override env.values overrides)

end AmbientTypes.Settings
