import AmbientTypes.Proofs.Package.Regular

namespace AmbientTypes

namespace Text

/-- A part of a path up to its first slash, or to its end. -/
def IsFirstSegment (part cs : List Char) : Prop :=
  '/' ∉ part ∧ (cs = part ∨ ∃ rest, cs = part ++ '/' :: rest)

theorem cut_fst_eq_iff {part cs : List Char} :
    (cut '/' cs).1 = part ↔ IsFirstSegment part cs := by
  constructor
  · intro first
    rcases cut_cases '/' cs with ⟨fresh, whole⟩ | ⟨before, rest, fresh, whole, same⟩
    · rw [whole] at first
      exact ⟨first ▸ fresh, .inl first⟩
    · rw [same] at first
      exact ⟨first ▸ fresh, .inr ⟨rest, first ▸ whole⟩⟩
  · rintro ⟨fresh, rfl | ⟨rest, rfl⟩⟩
    · rw [cut_of_not_mem fresh]
    · rw [cut_append fresh]

end Text

namespace Specifier

/-- A path that starts at a place in the file system. -/
def IsLocal (s : String) : Prop := ∃ c ∈ s.toList.head?, c ∈ ['.', '/', '\\']

/-- A text with the tag of core modules, or a path whose first segment is one of them. -/
def IsCore (s : String) : Prop :=
  Package.coreTag.toList <+: s.toList ∨
    ∃ m ∈ Package.coreModules, Text.IsFirstSegment m.toList s.toList

/-- The tag with its mark, if there is one. -/
def tagText (p : Specifier) : List Char := if p.tag = [] then [] else p.tag ++ [':']

def scopeText (p : Specifier) : List Char :=
  if p.scope = [] then [] else '@' :: p.scope ++ ['/']

def versionText (p : Specifier) : List Char := if p.version = [] then [] else '@' :: p.version

def text (p : Specifier) : List Char :=
  p.tagText ++ (p.scopeText ++ (p.path ++ p.versionText))

/-- A text is made of these parts; a line feed may follow them. -/
structure Spells (p : Specifier) (s : String) : Prop where
  read : p.IsRead
  segment : ∃ c ∈ p.path.head?, c ≠ '/'
  text : s.toList = p.text ∨ s.toList = p.text ++ ['\n']

variable {p : Specifier} {tag scope cs : List Char} {s : String}

theorem isLocal_iff : isLocal s = true ↔ IsLocal s := by
  unfold isLocal IsLocal
  cases s.toList with
  | nil => simp
  | cons c cs => simp [or_assoc]

theorem isBuiltin_iff : Package.isBuiltin s = true ↔ IsCore s := by
  simp only [Package.isBuiltin, IsCore, Text.startsWith, Bool.or_eq_true,
    List.isPrefixOf_iff_prefix, List.contains_iff_mem]
  refine or_congr_right ?_
  constructor
  · intro mem
    exact ⟨_, mem, Text.cut_fst_eq_iff.mp (by simp)⟩
  · rintro ⟨m, mem, first⟩
    rwa [Text.cut_fst_eq_iff.mpr first, String.ofList_toList]

theorem isPart_iff {test : Char → Bool} :
    isPart test cs = true ↔ cs ≠ [] ∧ ∀ c ∈ cs, test c = true := by
  simp [isPart]

theorem not_mem_of_isPathChar (mark : Char) (isMark : mark ∈ marks) (slash : mark ≠ '/')
    (made : ∀ c ∈ cs, isPathChar c = true) : mark ∉ cs := by
  intro mem
  have char := made mark mem
  rw [isPathChar, Bool.or_eq_true, decide_eq_true_eq] at char
  rcases char with char | same
  · exact not_mem_marks_of_isScopeChar char isMark
  · exact slash same

theorem eq_of_parsePath? (read : parsePath? tag scope cs = some p) :
    p.tag = tag ∧ p.scope = scope ∧ p.path ≠ [] ∧ cs = p.path ++ p.versionText := by
  unfold parsePath? at read
  rcases Text.cut_cases '@' cs with ⟨-, whole⟩ | ⟨path, version, -, rfl, whole⟩
  · simp only [whole, Option.isNone_none, Bool.true_or, Bool.and_true,
      Option.ite_none_right_eq_some, isPart_iff] at read
    obtain ⟨⟨full, -⟩, same⟩ := read
    obtain rfl := Option.some.inj same
    exact ⟨rfl, rfl, full, by simp [versionText]⟩
  · simp only [whole, Option.isNone_some, Bool.false_or, Option.getD_some, Bool.and_eq_true,
      Option.ite_none_right_eq_some, isPart_iff] at read
    obtain ⟨⟨⟨full, -⟩, full', -⟩, same⟩ := read
    obtain rfl := Option.some.inj same
    exact ⟨rfl, rfl, full, by simp [versionText, full']⟩

theorem eq_of_parseScope? (read : parseScope? tag cs = some p) :
    p.tag = tag ∧ p.path ≠ [] ∧ cs = p.scopeText ++ (p.path ++ p.versionText) := by
  unfold parseScope? at read
  split at read
  · next cs =>
    rcases Text.cut_cases '/' cs with ⟨-, whole⟩ | ⟨scope, rest, -, rfl, whole⟩
    · simp [whole] at read
    · simp only [whole, Option.ite_none_right_eq_some, isPart_iff] at read
      obtain ⟨⟨full, -⟩, read⟩ := read
      obtain ⟨rfl, rfl, path, rfl⟩ := eq_of_parsePath? read
      exact ⟨rfl, path, by simp [scopeText, full]⟩
  · obtain ⟨rfl, none, path, same⟩ := eq_of_parsePath? read
    exact ⟨rfl, path, by simpa [scopeText, none] using same⟩

theorem eq_of_parseLine? (read : parseLine? cs = some p) : p.path ≠ [] ∧ cs = p.text := by
  unfold parseLine? at read
  rcases Text.cut_cases ':' cs with ⟨-, whole⟩ | ⟨tag, rest, -, rfl, whole⟩
  · rw [whole] at read
    obtain ⟨none, path, same⟩ := eq_of_parseScope? read
    exact ⟨path, by simpa [text, tagText, none] using same⟩
  · simp only [whole, Option.ite_none_right_eq_some, isPart_iff] at read
    obtain ⟨⟨full, -⟩, read⟩ := read
    obtain ⟨rfl, path, rfl⟩ := eq_of_parseScope? read
    exact ⟨path, by simp [text, tagText, full]⟩

theorem parsePath?_text (read : p.IsRead) (full : p.path ≠ []) :
    parsePath? p.tag p.scope (p.path ++ p.versionText) = some p := by
  have fresh := not_mem_of_isPathChar '@' (by decide) (by decide) read.path
  have path : isPart isPathChar p.path = true := isPart_iff.mpr ⟨full, read.path⟩
  by_cases none : p.version = []
  · rw [parsePath?, versionText, if_pos none, List.append_nil, Text.cut_of_not_mem fresh]
    simp [path, ← none]
  · have version : isPart isVersionChar p.version = true := isPart_iff.mpr ⟨none, read.version⟩
    rw [parsePath?, versionText, if_neg none, Text.cut_append fresh]
    simp [path, version]

theorem parseScope?_text (read : p.IsRead) (full : p.path ≠ []) :
    parseScope? p.tag (p.scopeText ++ (p.path ++ p.versionText)) = some p := by
  have rest := parsePath?_text read full
  unfold scopeText
  split
  · next none =>
    rw [none] at rest
    rw [List.nil_append, parseScope?]
    · exact rest
    -- A path does not start like a scope.
    · intro cs same
      obtain ⟨c, path, whole⟩ := List.exists_cons_of_ne_nil full
      rw [whole, List.cons_append] at same
      obtain rfl := (List.cons.inj same).1
      exact not_mem_of_isPathChar '@' (by decide) (by decide) read.path
        (whole ▸ List.mem_cons_self)
  · next some =>
    have fresh : '/' ∉ p.scope := fun mem =>
      not_mem_marks_of_isScopeChar (read.scope _ mem) (by decide)
    have scope : isPart isScopeChar p.scope = true := isPart_iff.mpr ⟨some, read.scope⟩
    simp [parseScope?, Text.cut_append fresh, scope, rest]

theorem colon_not_mem (read : p.IsRead) : ':' ∉ p.scopeText ++ (p.path ++ p.versionText) := by
  have path := not_mem_of_isPathChar ':' (by decide) (by decide) read.path
  have scope : ':' ∉ p.scope := fun mem =>
    not_mem_marks_of_isScopeChar (read.scope _ mem) (by decide)
  have version : ':' ∉ p.version := fun mem =>
    not_mem_marks_of_isVersionChar (read.version _ mem) (by decide)
  unfold scopeText versionText
  split <;> split <;> simp [path, scope, version]

theorem parseLine?_text (read : p.IsRead) (full : p.path ≠ []) : parseLine? p.text = some p := by
  have rest := parseScope?_text read full
  by_cases none : p.tag = []
  · rw [parseLine?, text, tagText, if_pos none, List.nil_append,
      Text.cut_of_not_mem (colon_not_mem read)]
    exact none ▸ rest
  · have fresh : ':' ∉ p.tag := fun mem => not_mem_marks_of_isWord (read.tag _ mem) (by decide)
    have tag : isPart Text.isWord p.tag = true := isPart_iff.mpr ⟨none, read.tag⟩
    rw [parseLine?, text, tagText, if_neg none, List.append_assoc, List.singleton_append,
      Text.cut_append fresh]
    exact (if_pos tag).trans rest

theorem parseLine?_eq_some_iff :
    parseLine? cs = some p ↔ p.IsRead ∧ p.path ≠ [] ∧ cs = p.text := by
  constructor
  · intro read
    exact ⟨isRead_of_parseLine? read, eq_of_parseLine? read⟩
  · rintro ⟨read, full, rfl⟩
    exact parseLine?_text read full

theorem eq_or_eq_dropLineFeed (cs : List Char) :
    cs = dropLineFeed cs ∨ cs = dropLineFeed cs ++ ['\n'] := by
  fun_induction dropLineFeed cs with
  | case1 => simp
  | case2 => simp
  | case3 c cs _ ih => simpa using ih

theorem dropLineFeed_of_not_mem (fresh : '\n' ∉ cs) : dropLineFeed cs = cs := by
  rcases eq_or_eq_dropLineFeed cs with same | same
  · exact same.symm
  · exact absurd (same ▸ List.mem_append_right _ List.mem_cons_self) fresh

theorem dropLineFeed_append (cs : List Char) : dropLineFeed (cs ++ ['\n']) = cs := by
  induction cs with
  | nil => rfl
  | cons c cs ih =>
    rw [List.cons_append, dropLineFeed, ih]
    intro _ last
    exact absurd last (by simp)

theorem lineFeed_not_mem_text (read : p.IsRead) : '\n' ∉ p.text := by
  have tag : '\n' ∉ p.tag := fun mem => absurd (read.tag _ mem) (by decide)
  have scope : '\n' ∉ p.scope := fun mem => absurd (read.scope _ mem) (by decide)
  have path : '\n' ∉ p.path := fun mem => absurd (read.path _ mem) (by decide)
  have version : '\n' ∉ p.version := fun mem => absurd (read.version _ mem) (by decide)
  unfold text tagText scopeText versionText
  split <;> split <;> split <;> simp [tag, scope, path, version]

theorem package_ne_nil_iff : p.package ≠ [] ↔ ∃ c ∈ p.path.head?, c ≠ '/' := by
  unfold package
  cases p.path with
  | nil => simp [Text.cut]
  | cons c path =>
    by_cases slash : c = '/' <;> simp [Text.cut, slash]

theorem spells_iff : p.Spells s ↔ parse? s = some p ∧ p.package ≠ [] := by
  rw [package_ne_nil_iff, parse?, parseLine?_eq_some_iff]
  constructor
  · rintro ⟨read, ⟨c, head, ne⟩, text⟩
    have full : p.path ≠ [] := by
      rintro none
      simp [none] at head
    have line : dropLineFeed s.toList = p.text := by
      rcases text with same | same
      · rw [same, dropLineFeed_of_not_mem (lineFeed_not_mem_text read)]
      · rw [same, dropLineFeed_append]
    exact ⟨⟨read, full, line⟩, c, head, ne⟩
  · rintro ⟨⟨read, -, line⟩, segment⟩
    exact ⟨read, segment, line ▸ eq_or_eq_dropLineFeed s.toList⟩

theorem eq_of_spells {q : Specifier} (spelled : p.Spells s) (spelled' : q.Spells s) : p = q :=
  Option.some.inj ((spells_iff.mp spelled).1.symm.trans (spells_iff.mp spelled').1)

end Specifier

namespace Dependency

open Specifier

/-- The package that the parts of a specifier name, its first segment given. -/
def ofParts (p : Specifier) (package : List Char) : Dependency where
  registry := Text.lower (String.ofList p.tag)
  name := String.ofList (p.scopeText ++ package)
  version := String.ofList p.version

theorem dependency_eq_ofParts (p : Specifier) : p.dependency = ofParts p p.package := by
  unfold Specifier.dependency ofParts scopeText
  by_cases none : p.scope = [] <;> simp [none]

theorem ofSpecifier?_eq_some_iff {s : String} {d : Dependency} :
    ofSpecifier? s = some d ↔
      ¬ IsLocal s ∧ ¬ IsCore s ∧ ∃ p : Specifier, p.Spells s ∧ d = p.dependency := by
  rw [← isLocal_iff, ← isBuiltin_iff]
  unfold ofSpecifier?
  constructor
  · intro read
    split at read
    · cases read
    · next plain =>
      obtain ⟨p, parsed, chosen⟩ := Option.bind_eq_some_iff.mp read
      rw [Bool.or_eq_true, Bool.or_eq_true, not_or, not_or] at plain
      split at chosen
      · cases chosen
      · next full =>
        have spelled : p.Spells s := spells_iff.mpr ⟨parsed, by simpa using full⟩
        exact ⟨plain.2, plain.1.2, p, spelled, (Option.some.inj chosen).symm⟩
  · rintro ⟨here, core, p, spelled, rfl⟩
    obtain ⟨parsed, full⟩ := spells_iff.mp spelled
    have some : s.isEmpty = false := by
      rw [Bool.eq_false_iff]
      intro empty
      rw [String.isEmpty_iff.mp empty] at parsed
      cases parsed
    rw [some, Bool.eq_false_iff.mpr core, Bool.eq_false_iff.mpr here, parsed]
    simp [full]

/-- A specifier names a package exactly when it is neither local nor a core module and is put
together of parts by the grammar. The parts are then the only ones, and the package is the one that
they name, whatever path follows its first segment. -/
theorem specifiers_follow_the_grammar (s : String) :
    (∀ p q : Specifier, p.Spells s → q.Spells s → p = q) ∧
      ∀ d : Dependency, ofSpecifier? s = some d ↔
        ¬ IsLocal s ∧ ¬ IsCore s ∧ ∃ (p : Specifier) (package : List Char), p.Spells s ∧
          Text.IsFirstSegment package p.path ∧ d = ofParts p package := by
  refine ⟨fun p q => eq_of_spells, fun d => ?_⟩
  rw [ofSpecifier?_eq_some_iff]
  simp only [dependency_eq_ofParts, ← Text.cut_fst_eq_iff, exists_eq_left', exists_and_left]
  rfl

theorem scoped_path_names_package :
    ofSpecifier? "NPM:@a/b/c@1\n" = some ⟨"npm", "@a/b", "1"⟩ := by
  let p : Specifier := ⟨['N', 'P', 'M'], ['a'], ['b', '/', 'c'], ['1']⟩
  have spelled : p.Spells "NPM:@a/b/c@1\n" :=
    ⟨⟨forall_of_isPart (by decide), forall_of_isPart (by decide), forall_of_isPart (by decide),
      forall_of_isPart (by decide)⟩, ⟨'b', rfl, by decide⟩, .inr (by decide)⟩
  have here : ¬ IsLocal "NPM:@a/b/c@1\n" := fun l => absurd (isLocal_iff.mpr l) (by decide)
  have core : ¬ IsCore "NPM:@a/b/c@1\n" := fun l => absurd (isBuiltin_iff.mpr l) (by decide)
  exact ((specifiers_follow_the_grammar _).2 _).mpr
    ⟨here, core, p, ['b'], spelled, ⟨by decide, .inr ⟨['c'], rfl⟩⟩, by decide⟩

end Dependency

end AmbientTypes
