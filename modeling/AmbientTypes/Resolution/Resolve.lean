import AmbientTypes.Package.Specifier
import AmbientTypes.Resolution.Load
import AmbientTypes.Resolution.Wave
import AmbientTypes.Syntax.Import

namespace AmbientTypes.Resolution

open Registry

/-- The first dependency of each key that the cache does not hold; keys in `seen` are left out. -/
def pendingAfter (cache : Cache) (seen : List String) : List Dependency → List Dependency
  | [] => []
  | d :: ds =>
    if seen.contains d.key || cache.holds d.key then pendingAfter cache seen ds
    else d :: pendingAfter cache (d.key :: seen) ds

def pending (cache : Cache) (ds : List Dependency) : List Dependency := pendingAfter cache [] ds

def announce (ds : List Dependency) : Journaled Unit :=
  if ds.isEmpty then Journaled.log .info "manager.nothing_pending" []
  else Journaled.log .info "manager.dependencies"
    [("names", .array (ds.map fun d => .string d.name))]

/-- Loads a wave; each load runs, whatever becomes of the others. -/
def loadWave (sources : Sources) (wave : List Dependency) : StateT Cache Journaled Outcome := do
  Journaled.record (.wave wave.length)
  return gather (← wave.mapM (load sources))

/-- Loads waves one after the other, up to the first with a broken contract. -/
def loadWaves (sources : Sources) : List (List Dependency) → StateT Cache Journaled Outcome
  | [] => return .ok []
  | wave :: rest => do
    match (← loadWave sources wave) with
    | .error e => return .error e
    | .ok found => return (← loadWaves sources rest).map (found ++ ·)

/-- Loads dependencies, at most `limit` at a time. -/
def loadAll (sources : Sources) (limit : Nat) (ds : List Dependency) :
    StateT Cache Journaled Outcome :=
  if ds.isEmpty then return .ok []
  else match batch ds limit with
    | .error e => return .error (.size e)
    | .ok waves => loadWaves sources waves

def choose (ds : List Dependency) : StateT Cache Journaled (List Dependency) := do
  let chosen := pending (← get) ds
  announce chosen
  return chosen

/-- The documents of those dependencies that have not been dispatched before. -/
def resolve (sources : Sources) (limit : Nat) (ds : List Dependency) :
    StateT Cache Journaled Outcome := do
  loadAll sources limit (← choose ds)

/-- Several resolutions at once: each chooses before any loads. -/
def resolveTogether (sources : Sources) (limit : Nat) (calls : List (List Dependency)) :
    StateT Cache Journaled (List Outcome) := do
  let chosen ← calls.mapM choose
  chosen.mapM (loadAll sources limit)

/-- The packages that a source text imports. A name with half of a character in it is passed over,
since no part of a specifier has such a code point. -/
def dependencies (source : String) : Journaled (List Dependency) :=
  match Syntax.importSpecifiers source with
  | .ok specifiers => return Dependency.classify (specifiers.filterMap Text.ofPoints?)
  | .error e => do
    Journaled.log .warning "parser.failed" [("error", .string e.message)]
    return []

def resolveSource (sources : Sources) (limit : Nat) (source : String) :
    StateT Cache Journaled Outcome := do
  resolve sources limit (← dependencies source)

end AmbientTypes.Resolution
