import AmbientTypes.Declaration.Document
import Mathlib.Data.List.Nodup

namespace AmbientTypes.Declaration

/-- A path leads from the file at a place to another file. -/
def LeadsTo (place path : String) (f : ArchiveFile) : Prop :=
  f.path = Path.normalize (Path.join (Path.directory place) path)

instance (place path : String) (f : ArchiveFile) : Decidable (LeadsTo place path f) :=
  inferInstanceAs (Decidable (f.path = _))

/-- The number of the first directive of a text that names a file. -/
def firstNaming (place text : String) (f : ArchiveFile) : Nat :=
  (referencePaths text).findIdx fun path => LeadsTo place path f

/-- A file that its path stands for: no file behind it is at the same path. -/
def IsLastAt (files : List ArchiveFile) (f : ArchiveFile) : Prop :=
  ∃ before after, files = before ++ f :: after ∧ ∀ g ∈ after, g.path ≠ f.path

/-- The files that the text of the file at a place refers to, where paths may be there more than
once: those that a path stands for and a directive leads to, by the first directive that does, each
once, and not the file itself. -/
structure AreReferred (place text : String) (files found : List ArchiveFile) : Prop where
  mem_iff : ∀ f, f ∈ found ↔
    IsLastAt files f ∧ f.path ≠ place ∧ ∃ path ∈ referencePaths text, LeadsTo place path f
  ordered : found.Pairwise fun f g => firstNaming place text f < firstNaming place text g
  once : (found.map ArchiveFile.path ++ [place]).Nodup

/-- The files that the directives of a text name, if it is the text of the file at a place: all of
them but that file, by the first directive that names each, and none of them, nor that file, once
more. -/
structure AreNamed (place text : String) (files found : List ArchiveFile) : Prop where
  mem_iff : ∀ f, f ∈ found ↔
    f ∈ files ∧ f.path ≠ place ∧ ∃ path ∈ referencePaths text, LeadsTo place path f
  ordered : found.Pairwise fun f g => firstNaming place text f < firstNaming place text g
  once : (found.map ArchiveFile.path ++ [place]).Nodup

variable {α : Type} [BEq α] [LawfulBEq α] {l : List α} {a b : α} {p : α → Bool}
  {place path text : String} {entry f : ArchiveFile} {files found : List ArchiveFile}

/-- What comes first among some members of a list comes first in the list. -/
theorem idxOf_lt_of_filter (kept : p a = true) (kept' : p b = true)
    (first : (l.filter p).idxOf a < (l.filter p).idxOf b) : l.idxOf a < l.idxOf b := by
  induction l with
  | nil => simp at first
  | cons c l ih =>
    by_cases here : c = a
    · subst here
      have apart : c ≠ b := by
        rintro rfl
        exact Nat.lt_irrefl _ first
      simp [apart]
    · have other : c ≠ b := by
        rintro rfl
        rw [List.filter_cons_of_pos kept'] at first
        simp at first
      have later : (l.filter p).idxOf a < (l.filter p).idxOf b := by
        by_cases also : p c = true
        · rw [List.filter_cons_of_pos also, List.idxOf_cons_ne _ here, List.idxOf_cons_ne _ other]
            at first
          omega
        · rwa [List.filter_cons_of_neg also] at first
      rw [List.idxOf_cons_ne _ here, List.idxOf_cons_ne _ other]
      exact Nat.succ_lt_succ (ih later)

/-- The members of a list that are kept stand in the order of their first occurrences. -/
theorem eraseDups_pairwise : (l : List α) → l.eraseDups.Pairwise fun a b => l.idxOf a < l.idxOf b
  | [] => .nil
  | a :: l => by
    have apart : ∀ b ∈ (l.filter fun b => !b == a).eraseDups, b ≠ a := by
      intro b mem
      rw [List.mem_eraseDups] at mem
      simpa using (List.mem_filter.mp mem).2
    have ordered := eraseDups_pairwise (l.filter fun b => !b == a)
    rw [List.eraseDups_cons, List.pairwise_cons]
    constructor
    · intro b mem
      rw [List.idxOf_cons_self, List.idxOf_cons_ne _ (apart b mem).symm]
      exact Nat.succ_pos _
    · refine ordered.imp_of_mem fun {b c} mem mem' first => ?_
      rw [List.idxOf_cons_ne _ (apart b mem).symm, List.idxOf_cons_ne _ (apart c mem').symm]
      apply Nat.succ_lt_succ
      exact idxOf_lt_of_filter (by simpa using apart b mem) (by simpa using apart c mem') first
  termination_by l => l.length
  decreasing_by exact Nat.lt_succ_of_le (List.length_filter_le _ _)

theorem nodup_eraseDups (l : List α) : l.eraseDups.Nodup :=
  (eraseDups_pairwise l).imp fun before same => Nat.ne_of_lt before (congrArg l.idxOf same)

theorem path_eq_of_fileAt? (read : fileAt? path files = some f) : f.path = path := by
  simpa using List.find?_some read

theorem mem_of_fileAt? (read : fileAt? path files = some f) : f ∈ files :=
  List.mem_reverse.mp (List.mem_of_find?_eq_some read)

theorem exists_fileAt? (mem : f ∈ files) :
    ∃ g, fileAt? f.path files = some g ∧ g.path = f.path := by
  have some : (fileAt? f.path files).isSome = true :=
    List.find?_isSome.mpr ⟨f, List.mem_reverse.mpr mem, by simp⟩
  obtain ⟨g, found⟩ := Option.isSome_iff_exists.mp some
  exact ⟨g, found, path_eq_of_fileAt? found⟩

theorem fileAt?_eq_some_iff : fileAt? path files = some f ↔ f.path = path ∧ IsLastAt files f := by
  simp only [fileAt?, List.find?_eq_some_iff_append, decide_eq_true_eq, Bool.not_eq_true',
    decide_eq_false_iff_not]
  refine and_congr_right fun same => ?_
  subst same
  constructor
  · intro h
    obtain ⟨behind, front, order, apart⟩ := h
    have whole := congrArg List.reverse order
    rw [List.reverse_reverse] at whole
    exact ⟨front.reverse, behind.reverse, by simp [whole], by simpa using apart⟩
  · intro h
    obtain ⟨before, after, whole, apart⟩ := h
    exact ⟨after.reverse, before.reverse, by simp [whole], by simpa using apart⟩

theorem IsLastAt.mem (last : IsLastAt files f) : f ∈ files := by
  obtain ⟨before, after, rfl, -⟩ := last
  simp

theorem isLastAt_iff (distinct : (files.map ArchiveFile.path).Nodup) :
    IsLastAt files f ↔ f ∈ files := by
  constructor
  · exact IsLastAt.mem
  · intro mem
    obtain ⟨g, read, same⟩ := exists_fileAt? mem
    obtain rfl := List.inj_on_of_nodup_map distinct (mem_of_fileAt? read) mem same
    exact (fileAt?_eq_some_iff.mp read).2

theorem mem_targets : f.path ∈ targets place text ↔
    ∃ path ∈ referencePaths text, LeadsTo place path f := by
  simp only [targets, List.mem_map, LeadsTo, target, eq_comm]

theorem idxOf_targets (place text : String) (f : ArchiveFile) :
    (targets place text).idxOf f.path = firstNaming place text f := by
  have same : (· == f.path) ∘ target place = fun path => decide (LeadsTo place path f) := by
    funext path
    rw [Bool.eq_iff_iff, Function.comp_apply, beq_iff_eq, decide_eq_true_eq, LeadsTo, eq_comm]
    rfl
  rw [targets, List.idxOf, List.findIdx_map, same]
  rfl

theorem mem_filesNamed_iff : f ∈ filesNamed place text files ↔
    IsLastAt files f ∧ f.path ≠ place ∧ ∃ path ∈ referencePaths text, LeadsTo place path f := by
  rw [← mem_targets]
  constructor
  · intro mem
    obtain ⟨path, kept, read⟩ := List.mem_filterMap.mp mem
    obtain ⟨named, other⟩ := List.mem_filter.mp kept
    obtain ⟨rfl, last⟩ := fileAt?_eq_some_iff.mp read
    exact ⟨last, by simpa using other, List.mem_eraseDups.mp named⟩
  · intro h
    obtain ⟨last, other, named⟩ := h
    have read : fileAt? f.path files = some f := fileAt?_eq_some_iff.mpr ⟨rfl, last⟩
    have kept : f.path ∈ (targets place text).eraseDups.filter (· ≠ place) := by
      apply List.mem_filter.mpr
      exact ⟨List.mem_eraseDups.mpr named, by simpa using other⟩
    exact List.mem_filterMap.mpr ⟨f.path, kept, read⟩

theorem filesNamed_pairwise (place text : String) (files : List ArchiveFile) :
    (filesNamed place text files).Pairwise fun f g =>
      (targets place text).idxOf f.path < (targets place text).idxOf g.path := by
  apply List.Pairwise.filterMap _ _ ((eraseDups_pairwise (targets place text)).filter _)
  intro path path' before f read g read'
  rwa [path_eq_of_fileAt? read, path_eq_of_fileAt? read']

theorem filesNamed_nodup (place text : String) (files : List ArchiveFile) :
    ((filesNamed place text files).map ArchiveFile.path).Nodup := by
  apply List.pairwise_map.mpr
  exact (filesNamed_pairwise place text files).imp fun before same =>
    Nat.ne_of_lt before (congrArg (targets place text).idxOf same)

theorem areReferred_filesNamed (place text : String) (files : List ArchiveFile) :
    AreReferred place text files (filesNamed place text files) where
  mem_iff _ := mem_filesNamed_iff
  ordered := by
    simp only [← idxOf_targets]
    exact filesNamed_pairwise place text files
  once := by
    apply List.nodup_append.mpr
    refine ⟨filesNamed_nodup place text files, List.nodup_singleton _, ?_⟩
    intro path mem place' own
    obtain ⟨f, mem', rfl⟩ := List.mem_map.mp mem
    rw [List.mem_singleton.mp own]
    exact (mem_filesNamed_iff.mp mem').2.1

theorem areNamed_filesNamed (distinct : (files.map ArchiveFile.path).Nodup) (place text : String) :
    AreNamed place text files (filesNamed place text files) := by
  obtain ⟨members, ordered, once⟩ := areReferred_filesNamed place text files
  exact ⟨fun f => by rw [members, isLastAt_iff distinct], ordered, once⟩

/-- Files in the order of the directives that name them are known by which they are. -/
theorem eq_of_ordered {found' : List ArchiveFile} (same : ∀ f, f ∈ found ↔ f ∈ found')
    (ordered : found.Pairwise fun f g => firstNaming place text f < firstNaming place text g)
    (ordered' : found'.Pairwise fun f g => firstNaming place text f < firstNaming place text g) :
    found = found' := by
  have nodup : ∀ {l : List ArchiveFile},
      l.Pairwise (fun f g => firstNaming place text f < firstNaming place text g) → l.Nodup :=
    fun ordered => ordered.imp fun before same => Nat.ne_of_lt before (congrArg _ same)
  have members : found.Perm found' :=
    (List.perm_ext_iff_of_nodup (nodup ordered) (nodup ordered')).mpr same
  refine members.eq_of_pairwise ?_ ordered ordered'
  intro f g _ _ before after
  omega

/-- There is one list only of the files that a text refers to. -/
theorem AreReferred.eq_filesNamed (referred : AreReferred place text files found) :
    found = filesNamed place text files := by
  have own := areReferred_filesNamed place text files
  have same : ∀ f, f ∈ found ↔ f ∈ filesNamed place text files :=
    fun f => (referred.mem_iff f).trans (own.mem_iff f).symm
  exact eq_of_ordered same referred.ordered own.ordered

/-- There is one list only of the files that a text names. -/
theorem AreNamed.unique {found' : List ArchiveFile} (named : AreNamed place text files found)
    (named' : AreNamed place text files found') : found = found' := by
  have same : ∀ f, f ∈ found ↔ f ∈ found' :=
    fun f => (named.mem_iff f).trans (named'.mem_iff f).symm
  exact eq_of_ordered same named.ordered named'.ordered

/-- From the files of an archive, which have different paths, a text refers to exactly those other
than its own that a directive names, in whatever spelling; each is given once, by the first
directive that names it. -/
theorem files_named_exactly (distinct : (files.map ArchiveFile.path).Nodup) (entry : ArchiveFile)
    (text : String) :
    (∀ found, AreNamed entry.path text files found ↔ found = filesNamed entry.path text files) ∧
      (entry ∈ files → ∀ f, f ∈ filesNamed entry.path text files ↔
        f ∈ files ∧ f ≠ entry ∧ ∃ path ∈ referencePaths text, LeadsTo entry.path path f) := by
  have named := areNamed_filesNamed distinct entry.path text
  constructor
  · intro found
    constructor
    · intro named'
      exact named'.unique named
    · rintro rfl
      exact named
  · intro own f
    rw [named.mem_iff]
    refine and_congr_right fun mem => and_congr_left fun _ => not_congr ?_
    constructor
    · exact List.inj_on_of_nodup_map distinct mem own
    · exact congrArg ArchiveFile.path

/-- An entry, a file above it, and a file beside it. -/
def spelledFiles : List ArchiveFile := [⟨"lib/i.d.ts", []⟩, ⟨"b.d.ts", []⟩, ⟨"lib/a.d.ts", []⟩]

/-- Two spellings of the file beside the entry, with the entry itself and the other file between. -/
def spellings : String :=
  "///<reference path='./a.d.ts'/>\n///<reference path='i.d.ts'/>\n" ++
    "///<reference path='../b.d.ts'/>\n///<reference path='x/../a.d.ts'/>"

theorem spellings_name_two_files :
    (spelledFiles.map ArchiveFile.path).Nodup ∧
      AreNamed "lib/i.d.ts" spellings spelledFiles [⟨"lib/a.d.ts", []⟩, ⟨"b.d.ts", []⟩] := by
  have distinct : (spelledFiles.map ArchiveFile.path).Nodup := by decide
  have named := (files_named_exactly distinct ⟨"lib/i.d.ts", []⟩ spellings).1
  exact ⟨distinct, (named _).mpr (by decide +kernel)⟩

end AmbientTypes.Declaration
