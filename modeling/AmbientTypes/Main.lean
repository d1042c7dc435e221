import AmbientTypes.CommandLine.Run

namespace AmbientTypes.CommandLine

def settingNames : List String := [
  "AUTOTYPINGS_REGISTRY", "AUTOTYPINGS_MAX_CONCURRENCY", "AUTOTYPINGS_REQUEST_TIMEOUT",
  "AUTOTYPINGS_VERBOSE", "AUTOTYPINGS_BUILTINS", "AUTOTYPINGS_LOG_LEVEL",
  "AUTOTYPINGS_LOG_FORMAT"]

def readEnvironment : IO Settings.Environment :=
  settingNames.filterMapM fun name => return (← IO.getEnv name).map fun value => (name, value)

/-- The code of an access to a directory as if it were a file. -/
def directoryCode : UInt32 := 21

/-- The fault that an error in an access to a path stands for. Where a file is in the way, it is at
the path itself or above it. -/
def faultOf (path : String) : IO.Error → FileFault
  | .noFileOrDirectory _ _ _ => .missing
  | .alreadyExists file _ _ => if file = some path then .isFile else .notDirectory
  | .inappropriateType _ code _ => if code = directoryCode then .isDirectory else .notDirectory
  | _ => .longName

def access {α : Type} (path : String) (act : String → IO α) : IO (Except FileFault α) := do
  try
    return .ok (← act path)
  catch e =>
    return .error (faultOf path e)

partial def readAll (stream : IO.FS.Stream) (sofar : ByteArray) : IO ByteArray := do
  let more ← stream.read 65536
  if more.isEmpty then return sofar else readAll stream (sofar ++ more)

def noNetwork : Network := fun _ => .failure "there is no transport"

def systemShell (place : Location) (environment : Settings.Environment) : Shell IO where
  place := place
  environment := environment
  network := noNetwork
  configure verbose := (Logging.Setup.read environment verbose).map fun _ => ()
  input := return (← readAll (← IO.getStdin) .empty).toList
  read path := do
    if path.toList.contains '\x00' then return .error .nulCharacter
    access path fun path => return (← IO.FS.readBinFile path).toList
  makeDirectory l := access l.text fun path => IO.FS.createDirAll path
  write l content := access l.text fun path => IO.FS.writeBinFile path ⟨content.toArray⟩

def logLine (s : Logging.Setup) (e : Logging.Entry) : String :=
  let line := Json.object (Logging.Setup.members Logging.ownLogger e)
  match s.format with
  | .json => Json.encode ⟨true, none⟩ line
  | .console => e.severity.name ++ " " ++ e.event ++ " " ++ (Json.object e.fields).shown

def writeLog (s : Logging.Setup) (events : List Event) : IO Unit :=
  (events.filterMap Event.entry?).forM fun e => do
    if s.admits Logging.ownLogger e.severity then IO.eprintln (logLine s e)

end AmbientTypes.CommandLine

open AmbientTypes CommandLine in
def main (arguments : List String) : IO UInt32 := do
  let environment ← readEnvironment
  let place := Location.names (← IO.currentDir).toString
  let result ← run (systemShell place environment) arguments
  match result.verbose.map (Logging.Setup.read environment) with
  | some (.ok setup) => writeLog setup result.events
  | _ => pure ()
  IO.print result.output
  IO.eprint result.complaint
  match result.crash with
  | some crash => IO.eprintln crash.kind
  | none => pure ()
  return result.exitCode
