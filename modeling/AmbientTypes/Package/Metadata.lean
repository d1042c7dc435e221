import AmbientTypes.Json.Value

namespace AmbientTypes.Package

structure Metadata where
  tarball : String
  typesEntry : String
  name : String
  version : String
  deriving DecidableEq, Repr

inductive MetadataFault where
  | empty
  | reported (error : Json)
  | noTarball
  | malformedTarball (value : Json)
  | malformedEntry (value : Json)

namespace MetadataFault

def message : MetadataFault → String
  | empty => "package metadata is empty"
  | reported error => s!"package metadata error: {error.plain}"
  | noTarball => "missing tarball download URL in package metadata"
  | malformedTarball value => s!"malformed tarball URL in package metadata: {value.shown}"
  | malformedEntry value => s!"malformed types entry in package metadata: {value.shown}"

end MetadataFault

namespace Metadata

/-- The first of two values that is there and not blank. -/
def firstOf (a b : Option Json) : Option Json :=
  match a.filter (!·.isBlank) with
  | some v => some v
  | none => b.filter (!·.isBlank)

/-- A text member; other values count as absent. -/
def textOf (name : String) (v : Json) : String := ((v.get? name).bind Json.string?).getD ""

/-- Reads the entry: `types`, or else `typings`. -/
def entryOf (v : Json) : Except MetadataFault String :=
  match firstOf (v.get? "types") (v.get? "typings") with
  | none => .ok ""
  | some (.string entry) => .ok entry
  | some other => .error (.malformedEntry other)

def tarballOf (v : Json) : Except MetadataFault String :=
  match ((v.get? "dist").bind (Json.get? "tarball")).filter (!·.isBlank) with
  | none => .error .noTarball
  | some (.string address) => .ok address
  | some other => .error (.malformedTarball other)

def ofJson (v : Json) : Except MetadataFault Metadata :=
  match v with
  | .object (_ :: _) =>
    match (v.get? "error").filter (!·.isBlank) with
    | some error => .error (.reported error)
    | none => do
      let tarball ← tarballOf v
      let entry ← entryOf v
      return ⟨tarball, entry, textOf "name" v, textOf "version" v⟩
  | _ => .error .empty

end Metadata

end AmbientTypes.Package
