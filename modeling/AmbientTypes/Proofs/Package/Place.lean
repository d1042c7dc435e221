import AmbientTypes.Proofs.Package.Regular

namespace AmbientTypes.Dependency

open Specifier

/-- The place of a document below the directory of a package. -/
def place (d : Dependency) (relative : String) : String := d.documentRoot ++ "/" ++ relative

/-- The directory of the one package holds that of the other. -/
structure IsRootOf (d e : Dependency) : Prop where
  registry : d.registry = ""
  version : d.version = ""
  name : d.name = e.registry

/-- The version behind its mark. -/
def versionMark (d : Dependency) : List Char :=
  if d.version.isEmpty then [] else '@' :: d.version.toList

/-- The segments of a key: of a bare name one, of a scoped one two. -/
def keySegments (d : Dependency) : List (List Char) := Text.splitAt '/' d.key.toList

def segments (d : Dependency) : List (List Char) := Text.splitAt '/' d.documentRoot.toList

variable {d e : Dependency} {package part : List Char}

theorem key_toList (d : Dependency) : d.key.toList = d.name.toList ++ d.versionMark := by
  unfold key versionMark
  split <;> simp

theorem version_eq_of_versionMark (same : d.versionMark = e.versionMark) :
    d.version = e.version := by
  unfold versionMark at same
  rw [← String.toList_inj]
  split at same <;> split at same <;> simp_all

theorem slash_not_mem_of_isPlain (plain : IsPlain part) : '/' ∉ part :=
  fun mem => plain '/' mem (by decide)

theorem at_not_mem_of_isPlain (plain : IsPlain part) : '@' ∉ part :=
  fun mem => plain '@' mem (by decide)

namespace IsRegular

/-- Of the marks, keys have the slash and the at sign only. -/
theorem not_mem_key (regular : d.IsRegular) (mark : Char) (isMark : mark ∈ marks)
    (slash : mark ≠ '/') (at_ : mark ≠ '@') : mark ∉ d.key.toList := by
  have version : mark ∉ d.versionMark := by
    unfold versionMark
    split
    · simp
    · simpa [at_] using fun mem => regular.version mark mem isMark
  have name : mark ∉ d.name.toList := by
    have named := regular.name
    generalize d.name.toList = name at named
    cases named with
    | bare full plain => exact fun mem => plain mark mem isMark
    | inScope full plain plain' =>
      simpa [slash, at_] using
        ⟨fun mem => plain' mark mem isMark, fun mem => plain mark mem isMark⟩
  rw [key_toList, List.mem_append, not_or]
  exact ⟨name, version⟩

theorem slash_not_mem_versionMark (regular : d.IsRegular) : '/' ∉ d.versionMark := by
  unfold versionMark
  split
  · simp
  · simpa using slash_not_mem_of_isPlain regular.version

theorem slash_not_mem (regular : d.IsRegular) (plain : IsPlain package) :
    '/' ∉ package ++ d.versionMark := by
  rw [List.mem_append, not_or]
  exact ⟨slash_not_mem_of_isPlain plain, regular.slash_not_mem_versionMark⟩

theorem keySegments_cases (regular : d.IsRegular) :
    (∃ package, package ≠ [] ∧ IsPlain package ∧ d.name.toList = package ∧
      d.keySegments = [package ++ d.versionMark]) ∨
    ∃ scope package, IsPlain package ∧ d.name.toList = '@' :: scope ++ '/' :: package ∧
      d.keySegments = ['@' :: scope, package ++ d.versionMark] := by
  unfold keySegments
  rw [key_toList]
  have named := regular.name
  generalize d.name.toList = name at named
  cases named with
  | bare full plain =>
    exact .inl ⟨_, full, plain, rfl, Text.splitAt_of_not_mem (regular.slash_not_mem plain)⟩
  | @inScope scope package full plain plain' =>
    refine .inr ⟨scope, package, plain, rfl, ?_⟩
    have fresh : '/' ∉ '@' :: scope := by simpa using slash_not_mem_of_isPlain plain'
    have whole : '@' :: scope ++ '/' :: package ++ d.versionMark =
        ('@' :: scope) ++ '/' :: (package ++ d.versionMark) := by simp
    rw [whole, Text.splitAt_append, Text.splitAt_of_not_mem fresh,
      Text.splitAt_of_not_mem (regular.slash_not_mem plain)]
    rfl

theorem segments_eq (regular : d.IsRegular) :
    d.segments = if d.registry = "" then d.keySegments else d.registry.toList :: d.keySegments := by
  unfold segments documentRoot
  by_cases none : d.registry = ""
  · simp [none, keySegments]
  · have fresh := slash_not_mem_of_isPlain regular.registry
    simp [none, keySegments, Text.splitAt_append, Text.splitAt_of_not_mem fresh]

end IsRegular

theorem IsRegular.name_ne_empty (regular : d.IsRegular) : d.name ≠ "" := by
  intro empty
  have named := regular.name
  rw [empty] at named
  generalize same : "".toList = name at named
  cases named with
  | bare full => exact full same.symm
  | inScope => cases same

/-- The last segment of a key tells the package and the version apart. -/
theorem eq_of_append_versionMark {package' : List Char} (plain : IsPlain package)
    (plain' : IsPlain package') (same : package ++ d.versionMark = package' ++ e.versionMark) :
    package = package' ∧ d.version = e.version := by
  have cut : ∀ (b : Dependency) {part : List Char}, IsPlain part →
      (Text.cut '@' (part ++ b.versionMark)).1 = part := by
    intro b part plain
    unfold versionMark
    split
    · rw [List.append_nil, Text.cut_of_not_mem (at_not_mem_of_isPlain plain)]
    · rw [Text.cut_append (at_not_mem_of_isPlain plain)]
  have packages : package = package' := by
    rw [← cut d plain, same, cut e plain']
  subst packages
  exact ⟨rfl, version_eq_of_versionMark (List.append_cancel_left same)⟩

theorem ne_at_of_isPlain {scope : List Char} (full : package ≠ []) (plain : IsPlain package) :
    package ++ d.versionMark ≠ '@' :: scope := by
  intro same
  cases package with
  | nil => exact full rfl
  | cons c package =>
    obtain rfl := (List.cons.inj same).1
    exact plain '@' List.mem_cons_self (by decide)

namespace IsRegular

theorem eq_of_keySegments_prefix (hd : d.IsRegular) (he : e.IsRegular)
    (inside : d.keySegments <+: e.keySegments) : d.name = e.name ∧ d.version = e.version := by
  rcases hd.keySegments_cases with ⟨package, full, plain, name, segments⟩ |
    ⟨scope, package, plain, name, segments⟩ <;>
  rcases he.keySegments_cases with ⟨package', full', plain', name', segments'⟩ |
    ⟨scope', package', plain', name', segments'⟩ <;>
  rw [segments, segments'] at inside <;>
  simp only [List.cons_prefix_cons, List.nil_prefix, and_true, List.prefix_nil,
    List.cons_ne_nil, and_false] at inside
  -- Two segments are no beginning of one; the other way round, the one would start like a scope.
  · obtain ⟨rfl, version⟩ := eq_of_append_versionMark plain plain' inside
    exact ⟨String.toList_inj.mp (name.trans name'.symm), version⟩
  · exact absurd inside (ne_at_of_isPlain full plain)
  · obtain ⟨scopes, last⟩ := inside
    obtain ⟨rfl, version⟩ := eq_of_append_versionMark plain plain' last
    obtain rfl := List.cons.inj scopes |>.2
    exact ⟨String.toList_inj.mp (name.trans name'.symm), version⟩

/-- Keys tell names and versions apart. -/
theorem eq_of_key_eq (hd : d.IsRegular) (he : e.IsRegular) (same : d.key = e.key) :
    d.name = e.name ∧ d.version = e.version := by
  apply hd.eq_of_keySegments_prefix he
  rw [keySegments, same]
  exact List.prefix_rfl

theorem eq_of_keySegments_prefix_registry (hd : d.IsRegular) (he : e.IsRegular)
    {segments : List (List Char)} (inside : d.keySegments <+: e.registry.toList :: segments) :
    d.version = "" ∧ d.name = e.registry := by
  rcases hd.keySegments_cases with ⟨package, full, plain, name, segments⟩ |
    ⟨scope, package, plain, name, segments⟩ <;>
  rw [segments, List.cons_prefix_cons] at inside
  · have unversioned : d.versionMark = [] := by
      rw [versionMark, ite_eq_left_iff]
      intro versioned
      have mark : '@' ∈ e.registry.toList := by
        rw [← inside.1, versionMark, if_neg versioned]
        simp
      exact absurd mark (at_not_mem_of_isPlain he.registry)
    have version : d.version = "" := by
      unfold versionMark at unversioned
      split at unversioned
      · next none => simpa using none
      · cases unversioned
    have same := inside.1
    rw [unversioned, List.append_nil, ← name] at same
    exact ⟨version, String.toList_inj.mp same⟩
  · have mark : '@' ∈ e.registry.toList := inside.1 ▸ List.mem_cons_self
    exact absurd mark (at_not_mem_of_isPlain he.registry)

theorem not_registry_prefix (hd : d.IsRegular) (he : e.IsRegular) :
    ¬ d.registry.toList :: d.keySegments <+: e.keySegments := by
  intro inside
  rcases he.keySegments_cases with ⟨package, full, plain, name, segments⟩ |
    ⟨scope, package, plain, name, segments⟩ <;>
  rw [segments, List.cons_prefix_cons] at inside
  · exact Text.splitAt_ne_nil _ _ (List.prefix_nil.mp inside.2)
  · have mark : '@' ∈ d.registry.toList := inside.1 ▸ List.mem_cons_self
    exact absurd mark (at_not_mem_of_isPlain hd.registry)

theorem eq_or_isRootOf_of_prefix (hd : d.IsRegular) (he : e.IsRegular)
    (inside : d.segments <+: e.segments) : d = e ∨ d.IsRootOf e := by
  rw [hd.segments_eq, he.segments_eq] at inside
  split at inside <;> split at inside
  · next none none' =>
    obtain ⟨name, version⟩ := hd.eq_of_keySegments_prefix he inside
    exact .inl (Dependency.ext (none.trans none'.symm) name version)
  · next none some =>
    obtain ⟨version, name⟩ := hd.eq_of_keySegments_prefix_registry he inside
    exact .inr ⟨none, version, name⟩
  · exact absurd inside (hd.not_registry_prefix he)
  · rw [List.cons_prefix_cons] at inside
    obtain ⟨name, version⟩ := hd.eq_of_keySegments_prefix he inside.2
    exact .inl (Dependency.ext (String.toList_inj.mp inside.1) name version)

end IsRegular

theorem splitAt_place (d : Dependency) (relative : String) :
    Text.splitAt '/' (d.place relative).toList =
      d.segments ++ Text.splitAt '/' relative.toList := by
  rw [place, String.toList_append, String.toList_append, List.append_assoc]
  exact Text.splitAt_append '/' _ _

theorem place_inj {relative relative' : String} :
    d.place relative = d.place relative' ↔ relative = relative' := by
  simp [place, ← String.toList_inj]

/-- Of two packages with a common place, one is the other, or its directory holds the other's. -/
theorem eq_or_isRootOf_of_place_eq (hd : d.IsRegular) (he : e.IsRegular)
    {relative relative' : String} (same : d.place relative = e.place relative') :
    d = e ∨ d.IsRootOf e ∨ e.IsRootOf d := by
  have parts := congrArg (fun s => Text.splitAt '/' s.toList) same
  simp only [splitAt_place] at parts
  rcases List.prefix_or_prefix_of_prefix ⟨_, parts⟩ (List.prefix_append e.segments _) with
    inside | inside
  · exact (hd.eq_or_isRootOf_of_prefix he inside).imp_right .inl
  · rcases he.eq_or_isRootOf_of_prefix hd inside with rfl | root
    · exact .inl rfl
    · exact .inr (.inr root)

theorem cut_moduleKey (regular : d.IsRegular) : Text.cut ':' d.moduleKey.toList =
    if d.registry = "" then (d.key.toList, none) else (d.registry.toList, some d.key.toList) := by
  unfold moduleKey
  by_cases none : d.registry = ""
  · have fresh := regular.not_mem_key ':' (by decide) (by decide) (by decide)
    simp [none, Text.cut_of_not_mem fresh]
  · have fresh : ':' ∉ d.registry.toList := fun mem => regular.registry ':' mem (by decide)
    simp [none, Text.cut_append fresh]

theorem IsRegular.eq_of_moduleKey_eq (hd : d.IsRegular) (he : e.IsRegular)
    (same : d.moduleKey = e.moduleKey) : d = e := by
  have cuts := cut_moduleKey hd
  rw [same, cut_moduleKey he] at cuts
  have apart : e.registry = d.registry ∧ e.key = d.key := by
    split at cuts <;> split at cuts
    · next none none' =>
      exact ⟨none.trans none'.symm, String.toList_inj.mp (congrArg Prod.fst cuts)⟩
    · simp at cuts
    · simp at cuts
    · rwa [Prod.mk.injEq, Option.some.injEq, String.toList_inj, String.toList_inj] at cuts
  obtain ⟨name, version⟩ := hd.eq_of_key_eq he apart.2.symm
  exact Dependency.ext apart.1.symm name version

theorem IsRegular.eq_of_documentRoot_eq (hd : d.IsRegular) (he : e.IsRegular)
    (same : d.documentRoot = e.documentRoot) : d = e := by
  have segments : d.segments = e.segments := by rw [segments, same, segments]
  rcases hd.eq_or_isRootOf_of_prefix he (segments ▸ List.prefix_rfl) with same | root
  · exact same
  rcases he.eq_or_isRootOf_of_prefix hd (segments ▸ List.prefix_rfl) with same | root'
  · exact same.symm
  -- Each would be named like the registry of the other one, which has none.
  · exact absurd (root.name.trans root'.registry) hd.name_ne_empty

/-- The name of the module and the directory of a package tell it from all other packages, and its
key tells its name and version. -/
theorem names_tell_packages_apart (s t : String) (d e : Dependency) (read : ofSpecifier? s = some d)
    (read' : ofSpecifier? t = some e) :
    (d.moduleKey = e.moduleKey → d = e) ∧ (d.documentRoot = e.documentRoot → d = e) ∧
      (d.key = e.key → d.name = e.name ∧ d.version = e.version) := by
  have hd := isRegular_of_ofSpecifier? read
  have he := isRegular_of_ofSpecifier? read'
  exact ⟨hd.eq_of_moduleKey_eq he, hd.eq_of_documentRoot_eq he, hd.eq_of_key_eq he⟩

theorem registry_and_scope_stay_apart :
    ofSpecifier? "npm:react@18" = some ⟨"npm", "react", "18"⟩ ∧
      ofSpecifier? "@npm/react/jsx@18" = some ⟨"", "@npm/react", "18"⟩ ∧
      documentRoot ⟨"npm", "react", "18"⟩ ≠ documentRoot ⟨"", "@npm/react", "18"⟩ := by
  have read : ofSpecifier? "npm:react@18" = some ⟨"npm", "react", "18"⟩ := by decide
  have read' : ofSpecifier? "@npm/react/jsx@18" = some ⟨"", "@npm/react", "18"⟩ := by decide
  refine ⟨read, read', fun same => ?_⟩
  have equal := (names_tell_packages_apart _ _ _ _ read read').2.1 same
  exact absurd equal (by decide)

end AmbientTypes.Dependency
