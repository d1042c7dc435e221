import AmbientTypes.Package.Specifier
import AmbientTypes.Proofs.Text.Affix
import AmbientTypes.Proofs.Text.Word

namespace AmbientTypes

namespace Specifier

/-- The characters that stand between the parts of names, and the backslash. -/
def marks : List Char := ['/', '@', ':', '\\']

def IsPlain (cs : List Char) : Prop := ∀ c ∈ cs, c ∉ marks

/-- The name of a package: a segment, or a scope and a segment. -/
inductive IsName : List Char → Prop where
  | bare {package : List Char} (full : package ≠ []) (plain : IsPlain package) : IsName package
  | inScope {scope package : List Char} (full : package ≠ []) (plain : IsPlain package)
      (plain' : IsPlain scope) : IsName ('@' :: scope ++ '/' :: package)

/-- The parts of a specifier are made of their characters. -/
structure IsRead (parts : Specifier) : Prop where
  tag : ∀ c ∈ parts.tag, Text.isWord c = true
  scope : ∀ c ∈ parts.scope, isScopeChar c = true
  path : ∀ c ∈ parts.path, isPathChar c = true
  version : ∀ c ∈ parts.version, isVersionChar c = true

end Specifier

/-- A package as specifiers name them. -/
structure Dependency.IsRegular (d : Dependency) : Prop where
  registry : Specifier.IsPlain d.registry.toList
  name : Specifier.IsName d.name.toList
  version : Specifier.IsPlain d.version.toList

namespace Specifier

variable {cs tag scope : List Char} {parts : Specifier} {c : Char}

theorem not_mem_marks_of_isWord (h : Text.isWord c = true) : c ∉ marks := by
  intro mark
  simp only [marks, List.mem_cons, List.not_mem_nil, or_false] at mark
  rcases mark with rfl | rfl | rfl | rfl <;> exact absurd h (by decide)

theorem not_mem_marks_of_isScopeChar (h : isScopeChar c = true) : c ∉ marks := by
  simp only [isScopeChar, Bool.or_eq_true, decide_eq_true_eq] at h
  rcases h with (word | rfl) | rfl
  · exact not_mem_marks_of_isWord word
  · decide
  · decide

theorem not_mem_marks_of_isVersionChar (h : isVersionChar c = true) : c ∉ marks := by
  simp only [isVersionChar, Bool.or_eq_true, decide_eq_true_eq] at h
  rcases h with (scope | rfl) | rfl
  · exact not_mem_marks_of_isScopeChar scope
  · decide
  · decide

theorem forall_of_isPart {p : Char → Bool} (h : isPart p cs = true) : ∀ c ∈ cs, p c = true := by
  rw [isPart, Bool.and_eq_true, List.all_eq_true] at h
  exact h.2

theorem isRead_of_parsePath? (tagged : ∀ c ∈ tag, Text.isWord c = true)
    (inScope : ∀ c ∈ scope, isScopeChar c = true) (read : parsePath? tag scope cs = some parts) :
    parts.IsRead := by
  unfold parsePath? at read
  rcases Text.cut_cases '@' cs with ⟨-, whole⟩ | ⟨path, version, -, -, whole⟩
  · simp only [whole, Option.isNone_none, Bool.true_or, Bool.and_true,
      Option.ite_none_right_eq_some] at read
    obtain ⟨path, same⟩ := read
    obtain rfl := Option.some.inj same
    exact ⟨tagged, inScope, forall_of_isPart path, by simp⟩
  · simp only [whole, Option.isNone_some, Bool.false_or, Option.getD_some, Bool.and_eq_true,
      Option.ite_none_right_eq_some] at read
    obtain ⟨⟨path, version⟩, same⟩ := read
    obtain rfl := Option.some.inj same
    exact ⟨tagged, inScope, forall_of_isPart path, forall_of_isPart version⟩

theorem isRead_of_parseScope? (tagged : ∀ c ∈ tag, Text.isWord c = true)
    (read : parseScope? tag cs = some parts) : parts.IsRead := by
  unfold parseScope? at read
  split at read
  · split at read
    · rw [Option.ite_none_right_eq_some] at read
      exact isRead_of_parsePath? tagged (forall_of_isPart read.1) read.2
    · cases read
  · exact isRead_of_parsePath? tagged (by simp) read

theorem isRead_of_parseLine? (read : parseLine? cs = some parts) : parts.IsRead := by
  unfold parseLine? at read
  split at read
  · rw [Option.ite_none_right_eq_some] at read
    exact isRead_of_parseScope? (forall_of_isPart read.1) read.2
  · exact isRead_of_parseScope? (by simp) read

theorem isRead_of_parse? {s : String} (read : parse? s = some parts) : parts.IsRead :=
  isRead_of_parseLine? read

theorem not_mem_marks_of_isLetterlike (h : Text.IsLetterlike c) : c ∉ marks := by
  rcases h with word | ⟨high, -⟩
  · exact not_mem_marks_of_isWord word
  · have low : marks.all (·.toNat ≤ 92) = true := by decide
    intro mark
    have small : c.toNat ≤ 92 := by simpa using List.all_eq_true.mp low c mark
    omega

theorem isPlain_lowerFrom (before : List Char) (h : ∀ c ∈ cs, Text.isWord c = true) :
    IsPlain (Text.lowerFrom before cs) :=
  fun _ mem => not_mem_marks_of_isLetterlike (Text.isLetterlike_of_mem_lowerFrom h mem)

end Specifier

namespace Dependency

open Specifier

theorem isPlain_package {parts : Specifier} (read : parts.IsRead) : IsPlain parts.package := by
  intro c mem
  have char := read.path c (Text.mem_of_mem_cut_fst mem)
  rw [isPathChar, Bool.or_eq_true, decide_eq_true_eq] at char
  rcases char with char | rfl
  · exact not_mem_marks_of_isScopeChar char
  · exact absurd mem (Text.not_mem_cut_fst '/' parts.path)

theorem isRegular_dependency {parts : Specifier} (read : parts.IsRead)
    (full : parts.package ≠ []) : parts.dependency.IsRegular where
  registry := by
    simp only [Specifier.dependency, Text.lower, String.toList_ofList]
    exact isPlain_lowerFrom [] read.tag
  name := by
    simp only [Specifier.dependency, String.toList_ofList]
    split
    · exact .bare full (isPlain_package read)
    · exact .inScope full (isPlain_package read) fun c mem =>
        not_mem_marks_of_isScopeChar (read.scope c mem)
  version := by
    simp only [Specifier.dependency, String.toList_ofList]
    exact fun c mem => not_mem_marks_of_isVersionChar (read.version c mem)

theorem exists_isRead_of_ofSpecifier? {s : String} {d : Dependency}
    (read : ofSpecifier? s = some d) :
    ∃ parts : Specifier, parts.IsRead ∧ parts.package ≠ [] ∧ d = parts.dependency := by
  unfold ofSpecifier? at read
  split at read
  · cases read
  · obtain ⟨parts, parsed, chosen⟩ := Option.bind_eq_some_iff.mp read
    split at chosen
    · cases chosen
    · next full =>
      exact ⟨parts, isRead_of_parse? parsed, by simpa using full, (Option.some.inj chosen).symm⟩

theorem isRegular_of_ofSpecifier? {s : String} {d : Dependency}
    (read : ofSpecifier? s = some d) : d.IsRegular := by
  obtain ⟨parts, made, full, rfl⟩ := exists_isRead_of_ofSpecifier? read
  exact isRegular_dependency made full

theorem isRegular_of_mem_classify {specifiers : List String} {d : Dependency}
    (mem : d ∈ classify specifiers) : d.IsRegular := by
  obtain ⟨s, -, read⟩ := List.mem_filterMap.mp mem
  exact isRegular_of_ofSpecifier? read

/-- The characters that keys have beside those of words. -/
def signs : List Char := ['@', '/', ':', '-', '.', '^', '~']

def IsKeyChar (c : Char) : Prop := Text.IsLetterlike c ∨ c ∈ signs

theorem isKeyChar_of_isScopeChar {c : Char} (h : isScopeChar c = true) : IsKeyChar c := by
  simp only [isScopeChar, Bool.or_eq_true, decide_eq_true_eq] at h
  rcases h with (word | rfl) | rfl
  · exact .inl (.inl word)
  · exact .inr (by decide)
  · exact .inr (by decide)

theorem isKeyChar_of_isVersionChar {c : Char} (h : isVersionChar c = true) : IsKeyChar c := by
  simp only [isVersionChar, Bool.or_eq_true, decide_eq_true_eq] at h
  rcases h with (scope | rfl) | rfl
  · exact isKeyChar_of_isScopeChar scope
  · exact .inr (by decide)
  · exact .inr (by decide)

theorem isKeyChar_of_mem_name {p : Specifier} (read : p.IsRead) {c : Char}
    (mem : c ∈ p.dependency.name.toList) : IsKeyChar c := by
  have package : ∀ c ∈ p.package, IsKeyChar c := by
    intro c mem
    have char := read.path c (Text.mem_of_mem_cut_fst mem)
    rw [isPathChar, Bool.or_eq_true, decide_eq_true_eq] at char
    rcases char with char | rfl
    · exact isKeyChar_of_isScopeChar char
    · exact .inr (by decide)
  simp only [Specifier.dependency, String.toList_ofList] at mem
  split at mem
  · exact package c mem
  · simp only [List.cons_append, List.mem_cons, List.mem_append] at mem
    rcases mem with rfl | scope | rfl | mem
    · exact .inr (by decide)
    · exact isKeyChar_of_isScopeChar (read.scope c scope)
    · exact .inr (by decide)
    · exact package c mem

theorem mem_moduleKey {d : Dependency} {c : Char} (mem : c ∈ d.moduleKey.toList) :
    c ∈ d.registry.toList ∨ c ∈ d.name.toList ∨ c ∈ d.version.toList ∨ c = ':' ∨ c = '@' := by
  have key : c ∈ d.key.toList → c ∈ d.name.toList ∨ c ∈ d.version.toList ∨ c = '@' := by
    unfold key
    split
    · exact .inl
    · simp only [String.toList_append, List.mem_append]
      rintro ((name | mark) | version)
      · exact .inl name
      · exact .inr (.inr (List.mem_singleton.mp mark))
      · exact .inr (.inl version)
  unfold moduleKey at mem
  split at mem
  · grind
  · simp only [String.toList_append, List.mem_append] at mem
    grind

theorem isKeyChar_of_mem_moduleKey {s : String} {d : Dependency} (named : ofSpecifier? s = some d)
    {c : Char} (mem : c ∈ d.moduleKey.toList) : IsKeyChar c := by
  obtain ⟨p, read, -, rfl⟩ := exists_isRead_of_ofSpecifier? named
  rcases mem_moduleKey mem with registry | name | version | rfl | rfl
  · simp only [Specifier.dependency, Text.lower, String.toList_ofList] at registry
    exact .inl (Text.isLetterlike_of_mem_lowerFrom read.tag registry)
  · exact isKeyChar_of_mem_name read name
  · simp only [Specifier.dependency, String.toList_ofList] at version
    exact isKeyChar_of_isVersionChar (read.version c version)
  · exact .inr (by decide)
  · exact .inr (by decide)

end Dependency

end AmbientTypes
