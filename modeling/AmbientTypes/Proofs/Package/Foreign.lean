import AmbientTypes.Proofs.Package.Grammar
import Mathlib.Data.List.Infix

namespace AmbientTypes

/-- A package from elsewhere: its name starts at no place in the file system and is, where no
registry is given, not that of a core module. -/
structure Dependency.IsForeign (d : Dependency) : Prop where
  not_local : ¬ Specifier.IsLocal d.name
  not_core : d.registry = "" → Package.isBuiltin d.name = false

instance (d : Dependency) : Decidable d.IsForeign :=
  decidable_of_iff (Specifier.isLocal d.name = false ∧
      (d.registry = "" → Package.isBuiltin d.name = false)) <| by
    rw [← Bool.not_eq_true, Specifier.isLocal_iff]
    exact ⟨fun h => ⟨h.1, h.2⟩, fun h => ⟨h.not_local, h.not_core⟩⟩

namespace Specifier

/-- A dot behind a tag, or a core module with a version or a line feed behind it. -/
inductive IsDisguised (s : String) : Prop where
  | dot (tagged : [':', '.'] <:+: s.toList)
  | core {m : String} {mark : Char} (mem : m ∈ Package.coreModules) (ends : mark ∈ ['@', '\n'])
      (begins : m.toList ++ [mark] <+: s.toList)

instance : DecidablePred IsDisguised := fun s =>
  decidable_of_iff ([':', '.'] <:+: s.toList ∨ ∃ m ∈ Package.coreModules,
      m.toList ++ ['@'] <+: s.toList ∨ m.toList ++ ['\n'] <+: s.toList) <| by
    constructor
    · rintro (tagged | ⟨m, mem, begins | begins⟩)
      · exact .dot tagged
      · exact .core mem (by simp) begins
      · exact .core mem (by simp) begins
    · rintro (tagged | ⟨mem, ends, begins⟩)
      · exact .inl tagged
      · rcases List.mem_pair.mp ends with rfl | rfl
        · exact .inr ⟨_, mem, .inl begins⟩
        · exact .inr ⟨_, mem, .inr begins⟩

variable {p : Specifier} {s m : String} {cs : List Char} {mark : Char}

theorem IsName.not_slash (name : IsName cs) : ∀ c ∈ cs.head?, c ≠ '/' ∧ c ≠ '\\' := by
  intro c head
  cases name with
  | bare full plain =>
    have unmarked := plain c (List.mem_of_mem_head? head)
    constructor <;> rintro rfl <;> exact unmarked (by decide)
  | inScope full plain plain' =>
    obtain rfl := Option.some.inj head
    decide

theorem IsName.isLocal_iff (name : IsName s.toList) : IsLocal s ↔ s.toList.head? = some '.' := by
  constructor
  · rintro ⟨c, head, start⟩
    obtain ⟨slash, backslash⟩ := name.not_slash c head
    have dot : c = '.' := by simpa [slash, backslash] using start
    exact dot ▸ head
  · intro head
    exact ⟨'.', head, by decide⟩

theorem isWord_of_mem_coreModules (mem : m ∈ Package.coreModules) :
    m.toList ≠ [] ∧ ∀ c ∈ m.toList, Text.isWord c = true := by
  have words : ∀ m ∈ Package.coreModules,
      m.toList ≠ [] ∧ m.toList.all Text.isWord = true := by decide +kernel
  exact ⟨(words m mem).1, List.all_eq_true.mp (words m mem).2⟩

theorem Spells.exists_after (spelled : p.Spells s) :
    ∃ after, s.toList = p.tagText ++ (p.scopeText ++ (p.path ++ after)) ∧
      ':' ∉ p.scopeText ++ (p.path ++ after) ∧ ∀ mark ∈ after.head?, mark ∈ ['@', '\n'] := by
  have colon := colon_not_mem spelled.read
  have version : p.versionText = [] ∨ p.versionText = '@' :: p.version := by
    unfold versionText
    split <;> simp
  rcases spelled.text with whole | whole
  · refine ⟨p.versionText, whole, colon, ?_⟩
    rcases version with same | same <;> simp [same]
  · refine ⟨p.versionText ++ ['\n'], by simp [whole, Specifier.text], ?_, ?_⟩
    · simpa [or_assoc] using colon
    · rcases version with same | same <;> simp [same]

theorem head?_package (segment : ∃ c ∈ p.path.head?, c ≠ '/') : p.package.head? = p.path.head? := by
  unfold package
  cases path : p.path with
  | nil => rfl
  | cons c path =>
    have ne : c ≠ '/' := by simpa [path] using segment
    simp [Text.cut, ne]

theorem Spells.head?_eq (spelled : p.Spells s) (after : List Char) :
    (p.scopeText ++ (p.path ++ after)).head? = (p.scopeText ++ p.package).head? := by
  obtain ⟨c, head, -⟩ := spelled.segment
  rw [List.head?_append, List.head?_append, List.head?_append, head?_package spelled.segment, head]
  rfl

/-- The name of a package starts with a dot where one stands behind the tag. -/
theorem Spells.dot_iff (spelled : p.Spells s) :
    [':', '.'] <:+: s.toList ↔ p.tag ≠ [] ∧ (p.scopeText ++ p.package).head? = some '.' := by
  obtain ⟨after, whole, colon, -⟩ := spelled.exists_after
  rw [← spelled.head?_eq after, whole, tagText]
  by_cases untagged : p.tag = []
  · rw [if_pos untagged, List.nil_append]
    constructor
    · intro inside
      exact absurd (inside.subset List.mem_cons_self) colon
    · rintro ⟨tagged, -⟩
      exact absurd untagged tagged
  · have fresh : ':' ∉ p.tag := fun mem =>
      not_mem_marks_of_isWord (spelled.read.tag _ mem) (by decide)
    rw [if_neg untagged, List.append_assoc, List.singleton_append,
      Text.follows_mark_iff fresh colon]
    simp [untagged]

/-- A core module does not begin like a scope. -/
theorem scope_eq_nil_of_mem_coreModules (mem : m ∈ Package.coreModules) {rest rest' : List Char}
    (same : m.toList ++ rest = p.scopeText ++ rest') : p.scope = [] := by
  obtain ⟨full, word⟩ := isWord_of_mem_coreModules mem
  obtain ⟨c, cs, name⟩ := List.exists_cons_of_ne_nil full
  by_contra inScope
  rw [scopeText, if_neg inScope, name] at same
  obtain rfl := (List.cons.inj same).1
  exact absurd (word '@' (name ▸ List.mem_cons_self)) (by decide)

/-- A core module in front of a mark is the whole path. -/
theorem Spells.eq_of_begins (spelled : p.Spells s) (mem : m ∈ Package.coreModules)
    (ends : mark ∈ ['@', '\n']) (begins : m.toList ++ [mark] <+: s.toList) :
    p.tag = [] ∧ p.scope = [] ∧ p.path = m.toList := by
  obtain ⟨-, word⟩ := isWord_of_mem_coreModules mem
  obtain ⟨rest, same⟩ := begins
  obtain ⟨after, whole, -, stops⟩ := spelled.exists_after
  rw [whole, List.append_assoc, List.singleton_append] at same
  have untagged : p.tag = [] := by
    by_contra tagged
    rw [tagText, if_neg tagged, List.append_assoc, List.singleton_append] at same
    obtain ⟨-, rfl, -⟩ := Text.eq_of_append_stop (!Text.isWord ·)
      (by simpa using word) (by simpa using spelled.read.tag)
      (by rcases List.mem_pair.mp ends with rfl | rfl <;> decide) (by decide) same
    exact absurd ends (by decide)
  rw [tagText, if_pos untagged, List.nil_append] at same
  have unscoped := scope_eq_nil_of_mem_coreModules mem same
  rw [scopeText, if_pos unscoped, List.nil_append] at same
  refine ⟨untagged, unscoped, ?_⟩
  have outside : ∀ mark ∈ ['@', '\n'], (!isPathChar mark) = true :=
    List.all_eq_true.mp (by decide)
  cases after with
  | nil =>
    have inside : mark ∈ p.path ++ [] := same ▸ List.mem_append_right _ List.mem_cons_self
    rw [List.append_nil] at inside
    exact absurd (spelled.read.path mark inside) (by simpa using outside mark ends)
  | cons mark' after =>
    have path : ∀ c ∈ m.toList, isPathChar c = true := fun c mem => by
      simp [isPathChar, isScopeChar, word c mem]
    exact (Text.eq_of_append_stop (!isPathChar ·) (by simpa using path)
      (by simpa using spelled.read.path) (outside mark ends) (outside mark' (stops mark' rfl))
      same).1.symm

theorem toList_name (p : Specifier) :
    p.dependency.name.toList = p.scopeText ++ p.package := by
  rw [Dependency.dependency_eq_ofParts, Dependency.ofParts, String.toList_ofList]

theorem registry_eq_empty_iff : p.dependency.registry = "" ↔ p.tag = [] := by
  rw [dependency, Text.lower, String.toList_ofList, ← String.toList_inj, String.toList_ofList]
  exact Text.lowerFrom_eq_nil_iff

theorem Spells.isDisguised_iff_of_tag (spelled : p.Spells s) (tagged : p.tag ≠ []) :
    IsDisguised s ↔ (p.scopeText ++ p.package).head? = some '.' := by
  constructor
  · rintro (marked | ⟨mem, ends, begins⟩)
    · exact (spelled.dot_iff.mp marked).2
    · exact absurd (spelled.eq_of_begins mem ends begins).1 tagged
  · exact fun head => .dot (spelled.dot_iff.mpr ⟨tagged, head⟩)

theorem slash_not_mem_of_mem_coreModules (mem : m ∈ Package.coreModules) : '/' ∉ m.toList :=
  fun inside => not_mem_marks_of_isWord ((isWord_of_mem_coreModules mem).2 _ inside) (by decide)

/-- A package is named like a core module where it has no scope and its path begins with one. -/
theorem isCore_name_iff (read : p.IsRead) : IsCore p.dependency.name ↔
    p.scope = [] ∧ ∃ m ∈ Package.coreModules, p.package = m.toList := by
  rw [IsCore, toList_name]
  constructor
  · rintro (⟨rest, tag⟩ | ⟨m, mem, -, first⟩)
    · have inside : ':' ∈ p.scopeText ++ p.package := tag ▸ List.mem_append_left rest (by decide)
      refine absurd ?_ (colon_not_mem read)
      rcases List.mem_append.mp inside with scope | package
      · exact List.mem_append_left _ scope
      · exact List.mem_append_right _ (List.mem_append_left _ (Text.mem_of_mem_cut_fst package))
    · obtain ⟨rest, same⟩ : m.toList <+: p.scopeText ++ p.package := by
        rcases first with same | ⟨rest, same⟩ <;> simp [same]
      have unscoped := scope_eq_nil_of_mem_coreModules mem same
      refine ⟨unscoped, m, mem, ?_⟩
      rw [scopeText, if_pos unscoped, List.nil_append] at first
      rcases first with same | ⟨rest, same⟩
      · exact same
      · have inside : '/' ∈ p.package := by simp [same]
        exact absurd inside (Text.not_mem_cut_fst '/' p.path)
  · rintro ⟨unscoped, m, mem, same⟩
    refine .inr ⟨m, mem, slash_not_mem_of_mem_coreModules mem, .inl ?_⟩
    rw [scopeText, if_pos unscoped, same, List.nil_append]

/-- Without a tag, what is no core module but is named like one has a mark behind it. -/
theorem Spells.isDisguised_iff_of_no_tag (spelled : p.Spells s) (untagged : p.tag = [])
    (core : ¬ IsCore s) : IsDisguised s ↔ IsCore p.dependency.name := by
  rw [isCore_name_iff spelled.read]
  constructor
  · rintro (marked | ⟨mem, ends, begins⟩)
    · exact absurd untagged (spelled.dot_iff.mp marked).1
    · obtain ⟨-, unscoped, path⟩ := spelled.eq_of_begins mem ends begins
      refine ⟨unscoped, _, mem, ?_⟩
      rw [package, path, Text.cut_of_not_mem (slash_not_mem_of_mem_coreModules mem)]
  · rintro ⟨unscoped, m, mem, package⟩
    obtain ⟨after, whole, -, stops⟩ := spelled.exists_after
    rw [tagText, if_pos untagged, scopeText, if_pos unscoped, List.nil_append, List.nil_append]
      at whole
    obtain ⟨slash, path | ⟨below, path⟩⟩ := Text.cut_fst_eq_iff.mp package
    · cases after with
      | nil => exact absurd (.inr ⟨m, mem, slash, .inl (by simp [whole, path])⟩) core
      | cons mark after => exact .core mem (stops mark rfl) ⟨after, by simp [whole, path]⟩
    -- A path below a core module is a core module already.
    · exact absurd (.inr ⟨m, mem, slash, .inr ⟨below ++ after, by simp [whole, path]⟩⟩) core

end Specifier

namespace Dependency

open Specifier

theorem isForeign_iff {s : String} {d : Dependency} (read : ofSpecifier? s = some d) :
    d.IsForeign ↔ ¬ IsDisguised s := by
  have isName : IsName d.name.toList := (isRegular_of_ofSpecifier? read).name
  obtain ⟨here, core, p, spelled, rfl⟩ := ofSpecifier?_eq_some_iff.mp read
  have isLocal : IsLocal p.dependency.name ↔ (p.scopeText ++ p.package).head? = some '.' := by
    rw [isName.isLocal_iff, toList_name]
  by_cases untagged : p.tag = []
  · have not_local : ¬ IsLocal p.dependency.name := by
      obtain ⟨after, whole, -, -⟩ := spelled.exists_after
      rw [tagText, if_pos untagged, List.nil_append] at whole
      rw [IsLocal, toList_name, ← spelled.head?_eq after, ← whole]
      exact here
    rw [spelled.isDisguised_iff_of_no_tag untagged core, ← isBuiltin_iff, Bool.not_eq_true]
    exact ⟨fun foreign => foreign.not_core (registry_eq_empty_iff.mpr untagged),
      fun other => ⟨not_local, fun _ => other⟩⟩
  · rw [spelled.isDisguised_iff_of_tag untagged, ← isLocal]
    exact ⟨fun foreign => foreign.not_local,
      fun elsewhere => ⟨elsewhere, fun none => absurd (registry_eq_empty_iff.mp none) untagged⟩⟩

/-- No package that classification gives has a name that starts with a slash or a backslash, and the
ones from elsewhere among them are, in order, those of the specifiers that disguise nothing. -/
theorem classified_are_foreign_unless_disguised (specifiers : List String) :
    (∀ d ∈ classify specifiers, ∀ c ∈ d.name.toList.head?, c ≠ '/' ∧ c ≠ '\\') ∧
      (classify specifiers).filter (·.IsForeign) =
        classify (specifiers.filter (¬ IsDisguised ·)) := by
  refine ⟨fun d mem => (isRegular_of_mem_classify mem).name.not_slash, ?_⟩
  rw [classify, classify, List.filter_filterMap, List.filterMap_filter]
  refine List.filterMap_congr fun s _ => ?_
  cases read : ofSpecifier? s with
  | none => simp
  | some d => simp [Option.filter, isForeign_iff read]

theorem not_all_classified_are_foreign :
    classify ["npm:../x", "fs@1.0", "os\n"] =
        [⟨"npm", "..", ""⟩, ⟨"", "fs", "1.0"⟩, ⟨"", "os", ""⟩] ∧
      ∀ d ∈ classify ["npm:../x", "fs@1.0", "os\n"], ¬ d.IsForeign := by
  decide

end Dependency

end AmbientTypes
