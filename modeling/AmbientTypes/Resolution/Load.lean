import AmbientTypes.Package.Name
import AmbientTypes.Resolution.Cache
import AmbientTypes.Resolution.Fault

namespace AmbientTypes.Resolution

open Registry

/-- Whether others may have written the declarations of a package: not for scoped names, and not in
the entryless registry. -/
def hasFallback (d : Dependency) : Bool :=
  Kind.ofTag d.registry = .general && !Text.startsWith "@" d.name

def needsFallback (d : Dependency) (types : Declarations) : Bool :=
  types.files.isEmpty && hasFallback d

def announceFallback (d : Dependency) : Journaled Unit :=
  Journaled.log .info "manager.types_fallback"
    [("package", .string d.name), ("fallback", .string (Package.typesPackage d.name))]

/-- What a reply about the declarations that others have written comes to: none if they cannot be
resolved. -/
def acceptFallback (d : Dependency) :
    Except Registry.Fault Declarations → ExceptT Registry.Fault Journaled Declarations
  | .ok types => return types
  | .error e => do
    if !e.isResolution then throw e
    Journaled.log .warning "manager.types_fallback_failed"
      [("package", .string d.name), ("fallback", .string (Package.typesPackage d.name)),
        ("error", .string e.message)]
    return ⟨"", []⟩

def fallback (source : Source) (d : Dependency) :
    ExceptT Registry.Fault Journaled Declarations := do
  announceFallback d
  acceptFallback d (← ExceptT.lift (source (Package.typesPackage d.name) d.version).run)

def declarations (sources : Sources) (d : Dependency) :
    ExceptT Registry.Fault Journaled Declarations := do
  let source := sources (Kind.ofTag d.registry)
  let types ← source d.name d.version
  if needsFallback d types then fallback source d else return types

def generate (d : Dependency) (types : Declarations) :
    ExceptT Fault Journaled (List Document) := do
  if types.files.isEmpty then
    Journaled.log .warning "manager.no_declarations" [("package", .string d.name)]
    return []
  match Declaration.documents d types with
  | .error e => throw (.declaration e)
  | .ok found => ExceptT.lift found

def documents (sources : Sources) (d : Dependency) :
    ExceptT Fault Journaled (List Document) := do
  if d.name.isEmpty then throw (.declaration .emptyName)
  generate d (← (declarations sources d).adapt .registry)

/-- Notes how a load has ended. A failure yields no documents, a broken contract is passed on. -/
def settle (d : Dependency) : Outcome → Journaled Outcome
  | .ok [] => return .ok []
  | .ok found => do
    Journaled.log .info "manager.loaded"
      [("package", .string d.name), ("documents", Json.int found.length)]
    return .ok found
  | .error e =>
    if e.isContract then return .error e
    else do
      Journaled.log .warning "manager.dependency_failed"
        [("package", .string d.name), ("key", .string d.key), ("error_type", .string e.kind),
          ("error", .string e.message)]
      return .ok []

def loadTaken (sources : Sources) (d : Dependency) : Journaled Outcome := do
  Journaled.log .info "manager.loading" [("package", .string d.name), ("key", .string d.key)]
  settle d (← (documents sources d).run)

/-- Loads a package, unless its key has been taken before. -/
def load (sources : Sources) (d : Dependency) : StateT Cache Journaled Outcome := do
  match (← get).acquire? d.key with
  | none => return .ok []
  | some taken =>
    set taken
    let outcome ← loadTaken sources d
    modify (·.clearInFlight d.key)
    return outcome

end AmbientTypes.Resolution
