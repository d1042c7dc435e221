import AmbientTypes.Proofs.Declaration.Places
import AmbientTypes.Proofs.Path
import AmbientTypes.Proofs.Text.Utf8

namespace AmbientTypes.Declaration

variable {d : Dependency} {entry f : ArchiveFile} {types : Declarations} {path : String}

theorem relativePath_of_package (d : Dependency) (rest : String) :
    d.relativePath ("package/" ++ rest) = rest := by
  have read : Text.afterStart? (Dependency.archiveRoot ++ "/") ("package/" ++ rest) = some rest :=
    Text.afterStart?_eq_some_iff.mpr rfl
  rw [Dependency.relativePath, read]

/-- A reference from a file below the archive's root to another one leads, in the documents, from
the one's place to the other one's. -/
theorem normalize_join_documentPath (root : ∀ s ∈ Text.splitAt '/' d.documentRoot.toList,
      s ≠ [] ∧ s ≠ ['.'] ∧ s ≠ ['.', '.'])
    (normal : Path.normalize entry.path = entry.path)
    (inside : ∃ rest, entry.path = "package/" ++ rest)
    (relative : Text.startsWith "/" path = false) (declaration : f.isDeclaration = true)
    (names : f.path = Path.normalize (Path.join (Path.directory entry.path) path))
    (stays : Path.StaysBelow "package" (Path.directory entry.path) path) :
    Path.normalize (Path.join (Path.directory (d.documentPath entry.path)) path) =
      d.documentPath f.path := by
  obtain ⟨rest, entryPath⟩ := inside
  have package : Path.IsOrdinary "package".toList :=
    ⟨by decide, by decide, by decide, by decide⟩
  have roots : ∀ s ∈ Text.splitAt '/' d.documentRoot.toList, Path.IsOrdinary s :=
    fun s mem => ⟨(root s mem).1, (root s mem).2.1, (root s mem).2.2, Text.not_mem_of_mem_splitAt mem⟩
  have some := Text.splitAt_ne_nil '/' d.documentRoot.toList
  -- Both directories have the same segments below their roots.
  have segments : ∀ s ∈ Text.splitAt '/' rest.toList, Path.IsOrdinary s :=
    Path.isOrdinary_of_normal normal package (by simp [entryPath])
  obtain ⟨below, ordinary, directories⟩ := Path.exists_directory segments
  have fromPackage : Path.directory entry.path =
      String.ofList (Path.joinSegments ("package".toList :: below)) := by
    have text : entry.path = String.ofList ("package".toList ++ '/' :: rest.toList) := by
      rw [← String.toList_inj, entryPath]
      simp
    rw [text]
    exact directories ["package".toList] (by simp) (by simpa using package)
  have fromRoot : Path.directory (d.documentPath entry.path) = String.ofList
      (Path.joinSegments (Text.splitAt '/' d.documentRoot.toList ++ below)) := by
    rw [← directories _ some roots, Path.joinSegments_splitAt, Dependency.documentPath, entryPath,
      relativePath_of_package]
    apply congrArg Path.directory
    rw [← String.toList_inj]
    simp
  -- The reference leads to the same segments below either root.
  have ordinary' : ∀ s ∈ "package".toList :: below, Path.IsOrdinary s :=
    List.forall_mem_cons.mpr ⟨package, ordinary⟩
  rw [fromPackage] at stays names
  obtain ⟨above, leads⟩ := stays.exists_place ordinary' relative
  have named : f.path.toList = Path.joinSegments (["package".toList] ++ above) := by
    rw [names]
    exact leads ["package".toList] (by simp) (by simpa using package)
  have further : above ≠ [] := by
    rintro rfl
    have bare : f.path = "package" := by
      rw [← String.toList_inj, named]
      simp
    rw [ArchiveFile.isDeclaration, bare] at declaration
    exact absurd declaration (by decide +kernel)
  have filePath : f.path = "package/" ++ String.ofList (Path.joinSegments above) := by
    rw [← String.toList_inj, named, Path.joinSegments_append (by simp) further]
    simp
  rw [← String.toList_inj, fromRoot, leads _ some roots, Path.joinSegments_append some further,
    Path.joinSegments_splitAt, Dependency.documentPath, filePath, relativePath_of_package]
  simp

theorem exists_entryDocument {own : List Document} (made : entryDocuments d entry = .ok own) :
    ∃ document ∈ own, document.path = d.documentPath entry.path := by
  unfold entryDocuments at made
  dsimp only at made
  split at made
  · cases made
    exact ⟨_, List.mem_cons_self, rfl⟩
  · split at made
    · cases made
    · cases made
      exact ⟨_, List.mem_cons_self, rfl⟩

/-- A file that the entry refers to has a document, be it that of the entry itself. -/
theorem exists_document_of_target {made : Journaled (List Document)}
    (general : d.registry ≠ entrylessRegistry)
    (chosen : entryFile? d types.entry types.files = some entry)
    (given : documents d types = .ok made) (mem : f ∈ types.files)
    (target : f.path ∈ referenceTargets entry) :
    ∃ document ∈ made.value, document.path = d.documentPath f.path := by
  have named : d.name ≠ "" := by
    intro nameless
    rw [documents, if_pos (by simp [nameless])] at given
    cases given
  rw [documents_of_entryFile? named general chosen] at given
  cases own : entryDocuments d entry with
  | error e =>
    rw [own] at given
    cases given
  | ok own' =>
    rw [own] at given
    cases given
    by_cases same : f.path = entry.path
    · obtain ⟨document, mem, place⟩ := exists_entryDocument own
      exact ⟨document, List.mem_append_right _ mem, same ▸ place⟩
    · obtain ⟨g, found, place⟩ := exists_fileAt? mem
      refine ⟨⟨d.documentPath g.path, g.text⟩, List.mem_append_left _ ?_, by rw [place]⟩
      refine List.mem_map.mpr ⟨g, List.mem_filterMap.mpr ⟨f.path, ?_, found⟩, rfl⟩
      simpa [referenceTargets, same] using target

/-- A relative reference that is resolved inside the archive is resolved in the documents as well:
from the place of the entry's document it leads to the place of the document of the file that it
names, and a document is there whenever documents are made of the entry. -/
theorem references_are_found (root : ∀ s ∈ Text.splitAt '/' d.documentRoot.toList,
      s ≠ [] ∧ s ≠ ['.'] ∧ s ≠ ['.', '.'])
    (normal : Path.normalize entry.path = entry.path) (inside : ∃ rest, entry.path = "package/" ++ rest)
    (directive : path ∈ referencePaths entry.text) (relative : Text.startsWith "/" path = false)
    (mem : f ∈ types.files) (declaration : f.isDeclaration = true)
    (names : f.path = Path.normalize (Path.join (Path.directory entry.path) path))
    (stays : Path.StaysBelow "package" (Path.directory entry.path) path) :
    Path.normalize (Path.join (Path.directory (d.documentPath entry.path)) path) =
      d.documentPath f.path ∧
    ∀ made, d.registry ≠ "jsr" → entryFile? d types.entry types.files = some entry →
      documents d types = .ok made →
      ∃ document ∈ made.value, document.path = d.documentPath f.path := by
  refine ⟨normalize_join_documentPath root normal inside relative declaration names stays, ?_⟩
  intro made general chosen given
  refine exists_document_of_target general chosen given mem ?_
  exact List.mem_map.mpr ⟨path, directive, names.symm⟩

/-- An entry with a reference that goes up and down. -/
def referring : ArchiveFile := ⟨"package/lib/index.d.ts", Text.Utf8.encode
  "/// <reference path=\"./../globals/./env.d.ts\" />\nexport {};".toList⟩

/-- A package with that entry and the file that it refers to. -/
def referringTypes : Declarations :=
  ⟨"lib/index.d.ts", [referring, ⟨"package/globals/env.d.ts", []⟩]⟩

theorem reference_up_and_down_is_found :
    Path.normalize (Path.join (Path.directory "npm/lodash@4/lib/index.d.ts")
      "./../globals/./env.d.ts") = "npm/lodash@4/globals/env.d.ts" ∧
    ∃ made, documents ⟨"npm", "lodash", "4"⟩ referringTypes = .ok made ∧
      ∃ document ∈ made.value, document.path = "npm/lodash@4/globals/env.d.ts" := by
  obtain ⟨place, there⟩ := @references_are_found ⟨"npm", "lodash", "4"⟩ referring
    ⟨"package/globals/env.d.ts", []⟩ referringTypes "./../globals/./env.d.ts" (by decide +kernel)
    (by decide +kernel) ⟨"lib/index.d.ts", by decide +kernel⟩ (by decide +kernel) (by decide +kernel)
    (by simp [referringTypes]) (by decide +kernel) (by decide +kernel) (by decide +kernel)
  have entryPlace : Dependency.documentPath ⟨"npm", "lodash", "4"⟩ referring.path =
      "npm/lodash@4/lib/index.d.ts" := by decide +kernel
  have filePlace : Dependency.documentPath ⟨"npm", "lodash", "4"⟩ "package/globals/env.d.ts" =
      "npm/lodash@4/globals/env.d.ts" := by decide +kernel
  have given : (documents ⟨"npm", "lodash", "4"⟩ referringTypes).isOk = true := by decide +kernel
  cases made : documents ⟨"npm", "lodash", "4"⟩ referringTypes with
  | error e =>
    rw [made] at given
    cases given
  | ok made' =>
    have found := there made' (by decide) (by decide +kernel) made
    rw [filePlace] at found
    rw [entryPlace, filePlace] at place
    exact ⟨place, made', rfl, found⟩

end AmbientTypes.Declaration
