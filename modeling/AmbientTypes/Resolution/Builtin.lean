import AmbientTypes.Package.Builtin
import AmbientTypes.Package.Name
import AmbientTypes.Resolution.Fault
import AmbientTypes.Resolution.Wave

namespace AmbientTypes.Resolution

open Registry

def builtinPackage (tag : String) : String :=
  (Package.builtins.lookup tag).getD (Package.typesScope ++ tag)

def builtinDocuments (sources : Sources) (package : String) :
    ExceptT Registry.Fault Journaled (List Document) := do
  return Declaration.builtinDocuments package (← sources .general package "")

def settleBuiltin (tag package : String) :
    Except Registry.Fault (List Document) → Journaled Outcome
  | .ok [] => do
    Journaled.log .warning "manager.no_builtin_declarations"
      [("builtin", .string tag), ("package", .string package)]
    return .ok []
  | .ok found => return .ok found
  | .error .emptyName => return .error (.registry .emptyName)
  | .error e => do
    Journaled.log .warning "manager.builtin_failed"
      [("builtin", .string tag), ("package", .string package), ("error_type", .string e.kind),
        ("error", .string e.message)]
    return .ok []

def loadBuiltin (sources : Sources) (tag : String) : Journaled Outcome := do
  let package := builtinPackage tag
  Journaled.log .info "manager.loading_builtin"
    [("builtin", .string tag), ("package", .string package)]
  settleBuiltin tag package (← (builtinDocuments sources package).run)

def loadBuiltins (sources : Sources) : List (List String) → Journaled Outcome
  | [] => return .ok []
  | wave :: rest => do
    Journaled.record (.wave wave.length)
    match gather (← wave.mapM (loadBuiltin sources)) with
    | .error e => return .error e
    | .ok found => return (← loadBuiltins sources rest).map (found ++ ·)

/-- The distinct tags in the order of their characters. -/
def sortedTags (tags : List String) : List String :=
  tags.eraseDups.mergeSort fun a b => !(b < a : Bool)

/-- The documents of the packages of some tags, at most `limit` loaded at a time. -/
def resolveBuiltins (sources : Sources) (limit : Nat) (tags : List String) :
    Journaled Outcome :=
  if tags.contains "" then return .error .emptyTag
  else match batch (sortedTags tags) limit with
    | .error e => return .error (.size e)
    | .ok waves => loadBuiltins sources waves

end AmbientTypes.Resolution
