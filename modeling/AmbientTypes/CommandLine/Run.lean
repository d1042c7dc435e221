import AmbientTypes.CommandLine.Command
import AmbientTypes.CommandLine.Output
import AmbientTypes.Json.Encode
import AmbientTypes.Registry.Sources
import AmbientTypes.Resolution.Builtin
import AmbientTypes.Resolution.Resolve
import AmbientTypes.Text.LineEnd

namespace AmbientTypes.CommandLine

inductive Crash where
  | file (fault : FileFault)
  | resolution (fault : Resolution.Fault)
  | setup (fault : Logging.SetupFault)

namespace Crash

def kind : Crash → String
  | file fault => fault.kind
  | resolution fault => fault.kind
  | setup _ => "ValueError"

end Crash

/-- What a run leaves: its exit code and its texts, what has broken it off, whether the log was set
up to be verbose, and its events. -/
structure Result where
  exitCode : UInt32 := 0
  output : String := ""
  complaint : String := ""
  crash : Option Crash := none
  verbose : Option Bool := none
  events : List Event := []

def program : String := "autotypings"

def usageLine (kind : Option TaskKind) : String :=
  let arguments := match kind with
    | none => "[OPTIONS] COMMAND [ARGS]..."
    | some kind => kind.usage
  s!"Usage: {program} {arguments}\n"

def misuse (kind : Option TaskKind) (fault : UsageFault) : Result :=
  { exitCode := 2
    complaint := s!"{usageLine kind}\nError: {fault.message}\n" }

def settingsComplaint : String := "Error: invalid configuration:\n"

def settingLine (fault : Settings.Fault) : String :=
  ".".intercalate fault.place ++ ": " ++ fault.cause.message ++ "\n"

def misconfigured (faults : List Settings.Fault) : Result :=
  { exitCode := 1
    complaint := settingsComplaint ++ String.join (faults.map settingLine) }

def crashed (crash : Crash) (events : List Event) : Result :=
  { exitCode := 1, crash := some crash, events := events }

/-- The name of the standard input as a source. -/
def inputName : String := "-"

/-- Bytes as a text with uniform line ends. -/
def sourceText (bytes : List UInt8) : String :=
  String.ofList (Text.unifyLineEnds (Text.Utf8.decodeLossy bytes))

def dependencyJson (d : Dependency) : Json :=
  .object [("registry", .string d.registry), ("name", .string d.name),
    ("version", .string d.version)]

def documentJson (d : Document) : Json :=
  .object [("filepath", .string d.path), ("content", .string d.content)]

def listing (ascii : Bool) (values : List Json) : String :=
  Json.encode ⟨ascii, some 2⟩ (.array values) ++ "\n"

variable {m : Type → Type} [Monad m]

def readSourceText (shell : Shell m) (source : String) : m (Except FileFault String) := do
  if source = inputName then return .ok (sourceText (← shell.input))
  else return (← shell.read source).map sourceText

/-- Prints documents, or writes them below a directory. -/
def deliver (shell : Shell m) (output : Option String) (documents : List Document)
    (events : List Event) : m Result := do
  match output with
  | none => return { output := listing false (documents.map documentJson), events := events }
  | some path =>
    if path.toList.contains '\x00' then return crashed (.file .nulCharacter) events
    let root := shell.place.follow path
    let writing ← writeDocuments shell root documents
    let events := events ++ writing.events
    match writing.fault with
    | some fault => return crashed (.file fault) events
    | none =>
      return {
        output := s!"Wrote {writing.written} declaration file(s) to {root.text}\n"
        events := events }

def finish (shell : Shell m) (output : Option String) (run : Journaled Resolution.Outcome) :
    m Result :=
  match run.value with
  | .error e => return crashed (.resolution e) run.events
  | .ok documents => deliver shell output documents run.events

def sources (shell : Shell m) (s : Settings) : Registry.Sources :=
  Registry.sources ⟨shell.network, .float s.timeout⟩ s.registry

/-- The documents for the imports of a text, with nothing dispatched before. -/
def resolveText (shell : Shell m) (s : Settings) (text : String) :
    Journaled Resolution.Outcome := do
  let (outcome, _) ←
    (Resolution.resolveSource (sources shell s) s.concurrency text).run .empty
  return outcome

/-- The documents of the tags, or of the builtin packages that are switched on. -/
def resolveTags (shell : Shell m) (s : Settings) (tags : List String) :
    Journaled Resolution.Outcome :=
  Resolution.resolveBuiltins (sources shell s) s.concurrency
    (if tags.isEmpty then s.enabledBuiltins else tags)

def perform (shell : Shell m) (s : Settings) : Task → m Result
  | .deps source => do
    match (← readSourceText shell source) with
    | .error e => return crashed (.file e) []
    | .ok text =>
      let found := Resolution.dependencies text
      return { output := listing true (found.value.map dependencyJson), events := found.events }
  | .resolve source output => do
    match (← readSourceText shell source) with
    | .error e => return crashed (.file e) []
    | .ok text => finish shell output (resolveText shell s text)
  | .builtins tags output => finish shell output (resolveTags shell s tags)

def runTask (shell : Shell m) (s : Settings) (kind : TaskKind) (arguments : List String) :
    m Result :=
  match readTask kind arguments with
  | .error e => return misuse (some kind) e
  | .ok .help => return { output := usageLine (some kind) }
  | .ok (.found task) => perform shell s task

/-- Runs a command line. The settings are read, and the log is set up, before the arguments of the
task are. -/
def run (shell : Shell m) (arguments : List String) : m Result :=
  match readCommon arguments with
  | .error e => return misuse none e
  | .ok .help => return { output := usageLine none }
  | .ok (.found (overrides, rest)) =>
    match readKind rest with
    | .error e => return misuse none e
    | .ok .help => return { output := usageLine none }
    | .ok (.found (kind, rest)) =>
      match Settings.fromEnvironment shell.environment overrides with
      | .error faults => return misconfigured faults
      | .ok s =>
        match shell.configure s.verbose with
        | .error e => return crashed (.setup e) []
        | .ok () => do
          return { (← runTask shell s kind rest) with verbose := some s.verbose }

end AmbientTypes.CommandLine
