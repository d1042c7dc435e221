import AmbientTypes.Logging.Entry
import AmbientTypes.Settings.Environment

namespace AmbientTypes.Logging

/-- The least severity that is written; none lets the ancestors decide. -/
abbrev Level := Option Severity

/-- Names of levels, the usual one of each level first. -/
def levels : List (String × Level) := [
  ("CRITICAL", some .critical), ("FATAL", some .critical), ("ERROR", some .error),
  ("WARNING", some .warning), ("WARN", some .warning), ("INFO", some .info),
  ("DEBUG", some .debug), ("NOTSET", none)]

def levelName (level : Level) : String :=
  ((levels.find? fun l => l.2 = level).map (·.1)).getD ""

/-- A capital letter of ASCII. Two letters outside it have one as well. -/
def capital (c : Char) : Char :=
  if c = 'ı' then 'I' else if c = 'ſ' then 'S' else c.toUpper

/-- The level that a name stands for, in any letter case. -/
def readLevel? (name : String) : Option Level := levels.lookup (name.map capital)

inductive Format where
  | json
  | console
  deriving DecidableEq, Repr

/-- How the log is written: the level of the program's own loggers and the format. -/
structure Setup where
  level : Level
  format : Format
  deriving DecidableEq, Repr

inductive SetupFault where
  | unknownLevel
  deriving DecidableEq, Repr

def ownLogger : String := "autotypings"

def SetupFault.message : SetupFault → String
  | unknownLevel => s!"Unable to configure logger '{ownLogger}'"

namespace Setup

def read (env : Settings.Environment) (verbose : Bool) : Except SetupFault Setup :=
  let name := (env.lookup "AUTOTYPINGS_LOG_LEVEL").getD (if verbose then "DEBUG" else "WARNING")
  let format := (env.lookup "AUTOTYPINGS_LOG_FORMAT").getD "console"
  match readLevel? name with
  | none => .error .unknownLevel
  | some level => .ok ⟨level, if Text.lower format = "json" then .json else .console⟩

def own (s : Setup) : List (String × Level) :=
  [(ownLogger, s.level), ("httpx", some .warning), ("httpcore", some .warning)]

/-- The level that is set for a logger; that of the root for a logger without one. -/
def levelOf (s : Setup) (name : String) : Level := (s.own.lookup name).getD s.level

/-- A logger and its ancestors, by the parts of its name, the logger itself first. -/
def lineage (name : String) : List String :=
  let parts := Text.splitAt '.' name.toList
  ((List.range parts.length).map fun n =>
    String.ofList (['.'].intercalate (parts.take (n + 1)))).reverse

def effective (s : Setup) (name : String) : Level :=
  ((lineage name).findSome? fun ancestor => (s.own.lookup ancestor).join).or s.level

def admits (s : Setup) (name : String) (severity : Severity) : Bool :=
  match s.effective name with
  | none => true
  | some least => least.rank ≤ severity.rank

def rootLogger : String := "root"

def members (logger : String) (e : Entry) : List (String × Json) :=
  let name := if logger.isEmpty then rootLogger else logger
  Json.put "logger" (.string name)
    (Json.put "level" (.string e.severity.name) (Json.put "event" (.string e.event) e.fields))

end Setup

end AmbientTypes.Logging
