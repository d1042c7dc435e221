import AmbientTypes.Declaration.Document
import AmbientTypes.Proofs.Declaration.Clause
import AmbientTypes.Proofs.Declaration.Template
import AmbientTypes.Proofs.Package.Place

namespace AmbientTypes

namespace Dependency

variable {d : Dependency} {path : String}

theorem relativePath_cases (d : Dependency) (path : String) :
    path = "package/" ++ d.relativePath path ∨ path = d.name ++ "/" ++ d.relativePath path ∨
      d.relativePath path = path := by
  unfold relativePath
  split
  · next relative read => exact .inl (Text.afterStart?_eq_some_iff.mp read)
  · cases read : Text.afterStart? (d.name ++ "/") path with
    | none => exact .inr (.inr rfl)
    | some relative => exact .inr (.inl (Text.afterStart?_eq_some_iff.mp read))

/-- A file keeps its ending when the archive's root is dropped. -/
theorem exists_stem_relativePath (d : Dependency) {stem : String}
    (whole : path = stem ++ declarationEnd) :
    ∃ stem', d.relativePath path = stem' ++ declarationEnd := by
  have fresh : '/' ∉ declarationEnd.toList := by decide
  have cut : ∀ {root relative : String}, path = root ++ "/" ++ relative →
      ∃ stem', relative = stem' ++ declarationEnd := by
    intro root relative split
    have same : root.toList ++ '/' :: relative.toList = stem.toList ++ declarationEnd.toList := by
      rw [← String.toList_append, ← whole, split]
      simp
    obtain ⟨stem', rest⟩ := Text.exists_append_of_append_mark fresh same
    exact ⟨String.ofList stem', by rw [← String.toList_inj, rest]; simp⟩
  rcases d.relativePath_cases path with common | named | same
  · exact @cut "package" _ common
  · exact cut named
  · exact ⟨stem, same.trans whole⟩

theorem IsRegular.backslash_not_mem_moduleKey (regular : d.IsRegular) :
    '\\' ∉ d.moduleKey.toList := by
  have key := regular.not_mem_key '\\' (by decide) (by decide) (by decide)
  unfold moduleKey
  split
  · exact key
  · simpa using ⟨fun mem => regular.registry '\\' mem (by decide), key⟩

end Dependency

namespace Declaration

/-- What is made of the entry: itself with its clauses renamed, or itself and the side-car. -/
def entryPart (d : Dependency) (entry : ArchiveFile) : List Document :=
  let path := d.documentPath entry.path
  if (clauses d.name entry.text).isEmpty then [⟨path, entry.text⟩, sidecar d path]
  else [⟨path, replaceClauses d.name (fun _ => clauseTemplate d) entry.text⟩]

/-- The files that the entry refers to, as documents. -/
def referred (d : Dependency) (entry : ArchiveFile) (files : List ArchiveFile) : List Document :=
  (references entry files).map fun f => ⟨d.documentPath f.path, f.text⟩

/-- The documents of a package that a specifier names. -/
def packageDocuments (d : Dependency) (types : Declarations) : List Document :=
  if d.registry = entrylessRegistry then
    (types.files.filter fun f => !isBlankText f.text).map fun f =>
      ⟨d.documentPath f.path, wrapModule d.moduleKey f.text⟩
  else match entryFile? d types.entry types.files with
    | none => []
    | some entry => referred d entry types.files ++ entryPart d entry

variable {d : Dependency} {entry : ArchiveFile} {types : Declarations}

theorem entryDocuments_of_not_hasEscape (plain : ¬ HasEscape (clauseTemplate d))
    (entry : ArchiveFile) : entryDocuments d entry = .ok (entryPart d entry) := by
  have literal : expand ((clauseTemplate d).map .char) = fun _ => clauseTemplate d :=
    funext fun c => expand_map_char (clauseTemplate d) c
  simp only [entryDocuments, entryPart, readTemplate_of_not_hasEscape plain, literal]
  split <;> rfl

theorem not_hasEscape_clauseTemplate (regular : d.IsRegular) : ¬ HasEscape (clauseTemplate d) := by
  rintro ⟨c, -, inside⟩
  have mem : '\\' ∈ clauseTemplate d := inside.subset List.mem_cons_self
  exact regular.backslash_not_mem_moduleKey (by simpa [clauseTemplate] using mem)

theorem entryDocuments_eq (regular : d.IsRegular) (entry : ArchiveFile) :
    entryDocuments d entry = .ok (entryPart d entry) :=
  entryDocuments_of_not_hasEscape (not_hasEscape_clauseTemplate regular) entry

theorem entryPart_ne_nil (d : Dependency) (entry : ArchiveFile) : entryPart d entry ≠ [] := by
  unfold entryPart
  dsimp only
  split <;> simp

/-- The documents of a package of the general registry end in those of the entry. -/
theorem documents_of_entryFile? (named : d.name ≠ "") (general : d.registry ≠ entrylessRegistry)
    (chosen : entryFile? d types.entry types.files = some entry) :
    documents d types = (entryDocuments d entry).map fun own =>
      ⟨referred d entry types.files ++ own, []⟩ := by
  have full : types.files.isEmpty = false := by
    rw [List.isEmpty_eq_false_iff]
    exact List.ne_nil_of_mem (List.mem_of_find?_eq_some chosen)
  rw [documents, if_neg (by simpa using named), full, if_neg Bool.false_ne_true, if_neg general,
    fromEntry, chosen]
  dsimp only
  cases entryDocuments d entry <;> rfl

/-- The documents of a package of the entryless registry are its files that are not blank, each as
a module. -/
theorem documents_of_entryless (named : d.name ≠ "") (entryless : d.registry = entrylessRegistry)
    (types : Declarations) :
    ∃ events, documents d types = .ok ⟨(types.files.filter fun f => !isBlankText f.text).map fun f =>
      ⟨d.documentPath f.path, wrapModule d.moduleKey f.text⟩, events⟩ := by
  rw [documents, if_neg (by simpa using named), if_pos entryless]
  cases files : types.files with
  | nil => exact ⟨[], rfl⟩
  | cons f rest =>
    rw [List.isEmpty_cons, if_neg Bool.false_ne_true, selfContained,
      List.partition_eq_filter_filter]
    exact ⟨_, rfl⟩

theorem documents_of_no_entry (named : d.name ≠ "") (general : d.registry ≠ entrylessRegistry)
    (none : entryFile? d types.entry types.files = none) :
    ∃ events, documents d types = .ok ⟨[], events⟩ := by
  rw [documents, if_neg (by simpa using named), if_neg general, fromEntry, none]
  split
  · exact ⟨_, rfl⟩
  · exact ⟨_, rfl⟩

/-- The documents of a package whose key has no escape are always given. -/
theorem documents_of_not_hasEscape (named : d.name ≠ "") (plain : ¬ HasEscape (clauseTemplate d))
    (types : Declarations) : ∃ events, documents d types = .ok ⟨packageDocuments d types, events⟩ := by
  unfold packageDocuments
  split
  · next entryless => exact documents_of_entryless named entryless types
  · next general =>
    cases chosen : entryFile? d types.entry types.files with
    | none => exact documents_of_no_entry named general chosen
    | some entry =>
      rw [documents_of_entryFile? named general chosen, entryDocuments_of_not_hasEscape plain]
      exact ⟨[], rfl⟩

/-- The documents of a package that a specifier names are always given. -/
theorem documents_eq (regular : d.IsRegular) (types : Declarations) :
    ∃ events, documents d types = .ok ⟨packageDocuments d types, events⟩ :=
  documents_of_not_hasEscape regular.name_ne_empty (not_hasEscape_clauseTemplate regular) types

end Declaration

end AmbientTypes
