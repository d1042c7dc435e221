import AmbientTypes.Proofs.Declaration.Document
import AmbientTypes.Proofs.Declaration.Reference

namespace AmbientTypes.Declaration

/-- Files whose documents keep apart: without the archive's root their paths differ, and in the
general registry none of them is that of the side-car. -/
structure Spread (d : Dependency) (files : List ArchiveFile) : Prop where
  distinct : (files.map fun f => d.relativePath f.path).Nodup
  free : d.registry ≠ "jsr" → ∀ f ∈ files, d.relativePath f.path ≠ "__types__.d.ts"

variable {d : Dependency} {types : Declarations} {entry f : ArchiveFile} {path : String}
  {files chosen : List ArchiveFile}

theorem mem_references (mem : f ∈ references entry files) :
    f ∈ files ∧ f.path ≠ entry.path :=
  ⟨(mem_filesNamed_iff.mp mem).1.mem, (mem_filesNamed_iff.mp mem).2.1⟩

theorem references_nodup (entry : ArchiveFile) (files : List ArchiveFile) :
    (references entry files).Nodup :=
  (filesNamed_nodup entry.path entry.text files).of_map

theorem Spread.nodup_documentPath (spread : Spread d files) (distinct : chosen.Nodup)
    (inside : ∀ f ∈ chosen, f ∈ files) : (chosen.map fun f => d.documentPath f.path).Nodup := by
  apply distinct.map_on
  intro f mem f' mem' same
  apply List.inj_on_of_nodup_map spread.distinct (inside f mem) (inside f' mem')
  exact Dependency.place_inj.mp same

/-- In the general registry the places are those of what the entry refers to, of the entry, and of
the side-car. -/
theorem paths_sublist (d : Dependency) (entry : ArchiveFile) (files : List ArchiveFile) :
    ((referred d entry files ++ entryPart d entry).map Document.path).Sublist
      (((references entry files ++ [entry]).map fun f => d.documentPath f.path) ++
        [d.place sidecarName]) := by
  have own : ((entryPart d entry).map Document.path).Sublist
      [d.documentPath entry.path, d.place sidecarName] := by
    unfold entryPart
    dsimp only
    split
    · exact .refl _
    · exact .cons_cons _ (List.nil_sublist _)
  rw [List.map_append, List.map_append, referred, List.map_map, List.append_assoc]
  exact List.Sublist.append (.refl _) own

theorem Spread.paths_nodup (spread : Spread d types.files) :
    ((packageDocuments d types).map Document.path).Nodup := by
  unfold packageDocuments
  split
  · rw [List.map_map]
    apply spread.nodup_documentPath
    · exact (List.Nodup.of_map _ spread.distinct).filter _
    · exact fun f mem => (List.mem_filter.mp mem).1
  · next general =>
    cases read : entryFile? d types.entry types.files with
    | none => exact List.nodup_nil
    | some entry =>
      have mem : entry ∈ types.files := List.mem_of_find?_eq_some read
      have inside : ∀ f ∈ references entry types.files ++ [entry], f ∈ types.files := by
        intro f mem'
        rcases List.mem_append.mp mem' with referred | own
        · exact (mem_references referred).1
        · exact List.mem_singleton.mp own ▸ mem
      apply (paths_sublist d entry types.files).nodup
      -- The entry is not among what it refers to, and the side-car has a place of its own.
      rw [List.nodup_append']
      refine ⟨spread.nodup_documentPath ?_ inside, List.nodup_singleton _, ?_⟩
      · rw [List.nodup_append']
        refine ⟨references_nodup entry types.files, List.nodup_singleton _, ?_⟩
        rw [List.disjoint_singleton]
        exact fun referred => (mem_references referred).2 rfl
      · rw [List.disjoint_singleton]
        intro taken
        obtain ⟨f, mem', same⟩ := List.mem_map.mp taken
        exact spread.free general f (inside f mem') (Dependency.place_inj.mp same)

theorem exists_place {doc : Document} (mem : doc ∈ packageDocuments d types) :
    ∃ relative, doc.path = d.place relative := by
  unfold packageDocuments at mem
  split at mem
  · obtain ⟨f, -, rfl⟩ := List.mem_map.mp mem
    exact ⟨_, rfl⟩
  · split at mem
    · cases mem
    · next entry _ =>
      have place := (paths_sublist d entry types.files).subset (List.mem_map_of_mem mem)
      rcases List.mem_append.mp place with file | beside
      · obtain ⟨f, -, same⟩ := List.mem_map.mp file
        exact ⟨_, same.symm⟩
      · exact ⟨_, List.mem_singleton.mp beside⟩

theorem exists_place_of_entryDocuments {own : List Document} {doc : Document}
    (made : entryDocuments d entry = .ok own) (mem : doc ∈ own) :
    ∃ relative, doc.path = d.place relative := by
  simp only [entryDocuments] at made
  split at made
  · obtain rfl := Except.ok.inj made
    simp only [List.mem_cons, List.not_mem_nil, or_false] at mem
    rcases mem with rfl | rfl
    · exact ⟨_, rfl⟩
    · exact ⟨_, rfl⟩
  · cases read : readTemplate (clauseTemplate d) with
    | error e =>
      rw [read] at made
      cases made
    | ok inserts =>
      rw [read] at made
      obtain rfl := Except.ok.inj made
      rw [List.mem_singleton.mp mem]
      exact ⟨_, rfl⟩

/-- Documents that are given are below the package's directory, whatever its key is. -/
theorem exists_place_of_documents (named : d.name ≠ "") {found : Journaled (List Document)}
    (made : documents d types = .ok found) {doc : Document} (mem : doc ∈ found.value) :
    ∃ relative, doc.path = d.place relative := by
  by_cases entryless : d.registry = entrylessRegistry
  · obtain ⟨events, given⟩ := documents_of_entryless named entryless types
    obtain rfl := Except.ok.inj (made.symm.trans given)
    obtain ⟨f, -, rfl⟩ := List.mem_map.mp mem
    exact ⟨_, rfl⟩
  cases chosen : entryFile? d types.entry types.files with
  | none =>
    obtain ⟨events, given⟩ := documents_of_no_entry named entryless chosen
    obtain rfl := Except.ok.inj (made.symm.trans given)
    cases mem
  | some entry =>
    rw [documents_of_entryFile? named entryless chosen] at made
    cases given : entryDocuments d entry with
    | error e =>
      rw [given] at made
      cases made
    | ok own =>
      rw [given] at made
      obtain rfl := Except.ok.inj made
      rcases List.mem_append.mp mem with before | last
      · obtain ⟨f, -, rfl⟩ := List.mem_map.mp before
        exact ⟨_, rfl⟩
      · exact exists_place_of_entryDocuments given last

end AmbientTypes.Declaration
