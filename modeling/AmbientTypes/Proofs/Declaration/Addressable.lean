import AmbientTypes.Proofs.Declaration.Document
import AmbientTypes.Proofs.Declaration.Reference

namespace AmbientTypes

/-- The entry that metadata mean: the named one without the mark of the current directory, or the
default. -/
inductive Dependency.Means : String → String → Prop where
  | default : Means "" "index.d.ts"
  | marked (entry : String) : Means ("./" ++ entry) entry
  | named {entry : String} (named : entry ≠ "") (unmarked : ∀ rest, entry ≠ "./" ++ rest) :
      Means entry entry

/-- A path at which the entry may stand: as it is meant, or below a root of the archive. -/
def Dependency.IsCandidate (d : Dependency) (entry path : String) : Prop :=
  ∃ meant, Means entry meant ∧
    (path = meant ∨ path = "package/" ++ meant ∨ path = d.name ++ "/" ++ meant)

namespace Declaration

/-- A text with the module of a package's key. -/
def Names (d : Dependency) (content : String) : Prop :=
  ("declare module '" ++ d.moduleKey ++ "'").toList <:+: content.toList

/-- A document that is the module of a package's key, and imports the entry document. -/
structure IsSidecar (d : Dependency) (entry sidecar : Document) : Prop where
  path : sidecar.path = d.documentRoot ++ "/" ++ "__types__.d.ts"
  imports : ∃ variableName target, target ++ ".d.ts" = entry.path ∧
    sidecar.content = "declare module '" ++ d.moduleKey ++ "' \x7b\n" ++
      ("import " ++ variableName ++ " from \"" ++ target ++ "\";\nexport = " ++ variableName ++
        ";") ++ "\n\x7d"

/-- How the entry is addressed: it declares the module itself, under its key, or has a side-car. -/
inductive Addressed (d : Dependency) (entry : ArchiveFile) : List Document → Prop where
  | renamed {content : String} (declared : DeclaresModule d.name entry.text)
      (names : Names d content) : Addressed d entry [⟨d.documentPath entry.path, content⟩]
  | accompanied {sidecar : Document} (undeclared : ¬ DeclaresModule d.name entry.text)
      (imports : IsSidecar d ⟨d.documentPath entry.path, entry.text⟩ sidecar) :
      Addressed d entry [⟨d.documentPath entry.path, entry.text⟩, sidecar]

/-- The documents of a package of the general registry: the files to which directives of the entry
lead, as they are, and the entry, addressed. The entry is the first candidate for it. -/
def FromEntry (d : Dependency) (types : Declarations) (made : List Document) : Prop :=
  ∃ before entry after found own, types.files = before ++ entry :: after ∧
    (∀ f ∈ before, ¬ d.IsCandidate types.entry f.path) ∧ d.IsCandidate types.entry entry.path ∧
    AreReferred entry.path entry.text types.files found ∧ Addressed d entry own ∧
    made = found.map (fun f => ⟨d.documentPath f.path, f.text⟩) ++ own

/-- The documents of a package of the entryless registry: each file that is not blank, as a module
of the package's key. -/
def FromFiles (d : Dependency) (types : Declarations) (made : List Document) : Prop :=
  made = (types.files.filter fun f => !isBlankText f.text).map fun f =>
    ⟨d.documentPath f.path, "declare module '" ++ d.moduleKey ++ "' \x7b\n" ++ f.text ++ "\n\x7d"⟩

end Declaration

namespace Dependency

variable {d : Dependency} {entry path : String}

theorem means_plainEntry (entry : String) : Means entry (plainEntry entry) := by
  unfold plainEntry
  by_cases none : entry = ""
  · subst none
    exact .default
  · dsimp only
    rw [if_neg (by simpa using none)]
    cases read : Text.afterStart? "./" entry with
    | some rest =>
      obtain rfl := Text.afterStart?_eq_some_iff.mp read
      exact .marked rest
    | none =>
      refine .named none ?_
      intro rest marked
      rw [Text.afterStart?_eq_some_iff.mpr marked] at read
      cases read

theorem Means.eq_plainEntry {meant : String} (means : Means entry meant) :
    meant = plainEntry entry := by
  cases means with
  | default => rfl
  | marked =>
    have some : ("./" ++ meant).isEmpty = false := by simp
    rw [plainEntry, some, if_neg Bool.false_ne_true, Text.afterStart?_eq_some_iff.mpr rfl]
    rfl
  | named named unmarked =>
    have none : Text.afterStart? "./" entry = none := by
      rw [Option.eq_none_iff_forall_ne_some]
      exact fun rest read => unmarked rest (Text.afterStart?_eq_some_iff.mp read)
    rw [plainEntry, if_neg (by simpa using named), none]
    rfl

theorem mem_entryCandidates_iff : path ∈ d.entryCandidates entry ↔ d.IsCandidate entry path := by
  have roots : "package/" = archiveRoot ++ "/" := by decide
  simp only [entryCandidates, IsCandidate, List.mem_cons, List.not_mem_nil, or_false, roots]
  constructor
  · exact fun h => ⟨_, means_plainEntry entry, h⟩
  · intro h
    obtain ⟨meant, means, h⟩ := h
    rwa [means.eq_plainEntry] at h

end Dependency

namespace Declaration

variable {d : Dependency} {entry : ArchiveFile} {types : Declarations}

theorem entryFile?_eq_none_iff {hint : String} {files : List ArchiveFile} :
    entryFile? d hint files = none ↔ ∀ f ∈ files, ¬ d.IsCandidate hint f.path := by
  simp [entryFile?, ← Dependency.mem_entryCandidates_iff]

theorem entryFile?_eq_some_iff {hint : String} {files : List ArchiveFile} :
    entryFile? d hint files = some entry ↔ d.IsCandidate hint entry.path ∧
      ∃ before after, files = before ++ entry :: after ∧
        ∀ f ∈ before, ¬ d.IsCandidate hint f.path := by
  simp [entryFile?, List.find?_eq_some_iff_append, ← Dependency.mem_entryCandidates_iff]

theorem isSidecar_sidecar (d : Dependency) {stem : String}
    (whole : entry.path = stem ++ Dependency.declarationEnd) :
    IsSidecar d ⟨d.documentPath entry.path, entry.text⟩
      (sidecar d (d.documentPath entry.path)) := by
  obtain ⟨stem', relative⟩ := d.exists_stem_relativePath whole
  have place : d.documentPath entry.path =
      (d.documentRoot ++ "/" ++ stem') ++ Dependency.declarationEnd := by
    rw [Dependency.documentPath, relative, String.append_assoc]
    simp only [String.append_assoc]
  have target := Text.beforeEnd?_eq_some_iff.mpr place
  refine ⟨?_, Package.variableName d.name, d.documentRoot ++ "/" ++ stem', place.symm, ?_⟩
  · unfold sidecar sidecarName
    dsimp only
  · unfold sidecar wrapModule
    dsimp only
    rw [target, Option.getD_some]

theorem addressed_entryPart (d : Dependency) {stem : String}
    (whole : entry.path = stem ++ Dependency.declarationEnd) :
    Addressed d entry (entryPart d entry) := by
  unfold entryPart
  dsimp only
  cases none : (clauses d.name entry.text).isEmpty with
  | true =>
    rw [if_pos rfl]
    have undeclared : ¬ DeclaresModule d.name entry.text := by
      rw [declaresModule_iff]
      simpa using none
    exact .accompanied undeclared (isSidecar_sidecar d whole)
  | false =>
    rw [if_neg Bool.false_ne_true]
    have some : clauses d.name entry.text ≠ [] := by simpa using none
    exact .renamed (declaresModule_iff.mpr some) (infix_replaceClauses some _)

/-- The documents of a package that a specifier names, given its declaration files. In the general
registry there are none exactly when no file is a candidate for the entry; otherwise they are what
the entry refers to, as it is, and the entry, which is addressed under the package's key. In the
entryless registry they are modules of that key, one for each file that is not blank. -/
theorem packages_are_addressable {s : String} (read : Dependency.ofSpecifier? s = some d)
    (declarations : ∀ f ∈ types.files, ∃ stem, f.path = stem ++ ".d.ts") :
    ∃ made events, documents d types = .ok ⟨made, events⟩ ∧
      (d.registry ≠ "jsr" →
        (made = [] ↔ ∀ f ∈ types.files, ¬ d.IsCandidate types.entry f.path) ∧
        (made ≠ [] → FromEntry d types made)) ∧
      (d.registry = "jsr" → FromFiles d types made) := by
  obtain ⟨events, given⟩ := documents_eq (Dependency.isRegular_of_ofSpecifier? read) types
  refine ⟨packageDocuments d types, events, given, ?_, ?_⟩
  · intro general
    have other : ¬ d.registry = entrylessRegistry := general
    rw [packageDocuments, if_neg other]
    cases chosen : entryFile? d types.entry types.files with
    | none => simpa using entryFile?_eq_none_iff.mp chosen
    | some entry =>
      obtain ⟨candidate, before, after, files, first⟩ := entryFile?_eq_some_iff.mp chosen
      have mem : entry ∈ types.files := by simp [files]
      obtain ⟨stem, whole⟩ := declarations entry mem
      constructor
      · constructor
        · intro none
          exact absurd (List.append_eq_nil_iff.mp none).2 (entryPart_ne_nil d entry)
        · exact fun none => absurd candidate (none entry mem)
      · intro _
        have found := areReferred_filesNamed entry.path entry.text types.files
        have own := addressed_entryPart d whole
        exact ⟨before, entry, after, _, _, files, first, candidate, found, own, rfl⟩
  · intro entryless
    have same : d.registry = entrylessRegistry := entryless
    rw [packageDocuments, if_pos same]
    rfl

/-- What the documents are if the entry is known. -/
theorem FromEntry.eq_append {made : List Document} (whole : FromEntry d types made)
    (chosen : entryFile? d types.entry types.files = some entry) :
    ∃ own, Addressed d entry own ∧ made = (filesNamed entry.path entry.text types.files).map
      (fun f => ⟨d.documentPath f.path, f.text⟩) ++ own := by
  obtain ⟨before, first, after, found, own, files, none, candidate, referred, addressed, rfl⟩ :=
    whole
  have same : entryFile? d types.entry types.files = some first :=
    entryFile?_eq_some_iff.mpr ⟨candidate, before, after, files, none⟩
  rw [chosen] at same
  obtain rfl := Option.some.inj same
  rw [referred.eq_filesNamed]
  exact ⟨own, addressed, rfl⟩

/-- A text that refers to a file beside it, and to itself. -/
def markedMain : ArchiveFile :=
  ⟨"package/types/main.d.ts",
    "///<reference path='./lib.d.ts'/>\n///<reference path='main.d.ts'/>".toUTF8.toList⟩

/-- A package whose metadata mark its entry. The archive has another file in front of it, and two at
the path of the file beside it. -/
def marked : Declarations :=
  ⟨"./types/main.d.ts", [⟨"package/index.d.ts", []⟩, ⟨"package/types/lib.d.ts", [49]⟩, markedMain,
    ⟨"package/types/lib.d.ts", [50]⟩]⟩

theorem marked_is_addressable :
    let react : Dependency := ⟨"npm", "@types/react", "18.2.0"⟩
    let lib : Document := ⟨"npm/@types/react@18.2.0/types/lib.d.ts", "2"⟩
    ∃ own events, documents react marked = .ok ⟨lib :: own, events⟩ ∧
      FromEntry react marked (lib :: own) ∧ Addressed react markedMain own := by
  intro react lib
  have read : Dependency.ofSpecifier? "npm:@types/react/jsx@18.2.0" = some react := by
    decide +kernel
  have declarations : ∀ f ∈ marked.files, ∃ stem, f.path = stem ++ ".d.ts" := by
    intro f mem
    exact Text.endsWith_iff.mp ((by decide : ∀ f ∈ marked.files, f.isDeclaration = true) f mem)
  obtain ⟨made, events, given, general, -⟩ := packages_are_addressable read declarations
  obtain ⟨empty_iff, made_of⟩ := general (by decide)
  have chosen : entryFile? react marked.entry marked.files = some markedMain := by decide +kernel
  have full : made ≠ [] := by
    intro none
    have missing := entryFile?_eq_none_iff.mpr (empty_iff.mp none)
    rw [chosen] at missing
    cases missing
  obtain ⟨own, addressed, same⟩ := (made_of full).eq_append chosen
  have referred : (filesNamed markedMain.path markedMain.text marked.files).map
      (fun f => ⟨react.documentPath f.path, f.text⟩) = [lib] := by
    decide +kernel
  rw [referred, List.singleton_append] at same
  subst same
  exact ⟨own, events, given, made_of full, addressed⟩

theorem infix_of_quoted {before key quote rest mark body after : String}
    (whole : mark = quote ++ rest) :
    (before ++ key ++ quote).toList <:+: (before ++ key ++ mark ++ body ++ after).toList := by
  subst whole
  exact ⟨[], rest.toList ++ body.toList ++ after.toList, by simp⟩

theorem names_wrapModule (d : Dependency) (body : String) :
    Names d (wrapModule d.moduleKey body) := by
  have mark : "' \x7b\n" = "'" ++ " \x7b\n" := by decide +kernel
  unfold Names wrapModule
  exact infix_of_quoted mark

/-- Documents of a package, if there are any, have the module of its key among them. -/
theorem exists_names (some : packageDocuments d types ≠ []) :
    ∃ doc ∈ packageDocuments d types, Names d doc.content := by
  unfold packageDocuments at some ⊢
  split at some
  · next entryless =>
    rw [if_pos entryless]
    obtain ⟨doc, mem⟩ := List.exists_mem_of_ne_nil _ some
    refine ⟨doc, mem, ?_⟩
    obtain ⟨f, -, rfl⟩ := List.mem_map.mp mem
    exact names_wrapModule d f.text
  · next general =>
    rw [if_neg general]
    cases chosen : entryFile? d types.entry types.files with
    | none =>
      rw [chosen] at some
      exact absurd rfl some
    | some entry =>
      dsimp only
      have own : ∃ doc ∈ entryPart d entry, Names d doc.content := by
        unfold entryPart
        dsimp only
        split
        · exact ⟨_, List.mem_cons_of_mem _ List.mem_cons_self, names_wrapModule d _⟩
        · next declared =>
          exact ⟨_, List.mem_cons_self, infix_replaceClauses (by simpa using declared) _⟩
      obtain ⟨doc, mem, names⟩ := own
      exact ⟨doc, List.mem_append_right _ mem, names⟩

end Declaration

end AmbientTypes
