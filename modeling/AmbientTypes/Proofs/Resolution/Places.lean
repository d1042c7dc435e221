import AmbientTypes.Proofs.Declaration.Places
import AmbientTypes.Proofs.Resolution.Served

namespace AmbientTypes.Resolution

variable {sources : Registry.Sources} {limit : Nat} {c : Cache} {ds : List Dependency}
  {d : Dependency}

/-- The declarations of a package, if they can be given, keep its documents apart. -/
def SpreadFrom (sources : Registry.Sources) (d : Dependency) : Prop :=
  ∀ types, (declarations sources d).run.value = .ok types → Declaration.Spread d types.files

theorem paths_found_nodup (regular : d.IsRegular) (spread : SpreadFrom sources d) :
    ((found sources d).map Document.path).Nodup := by
  by_cases none : found sources d = []
  · rw [none]
    exact List.nodup_nil
  · obtain ⟨types, told, made⟩ := found_eq_packageDocuments regular none
    rw [made]
    exact (spread types told).paths_nodup

theorem exists_place_of_found (regular : d.IsRegular) {doc : Document}
    (mem : doc ∈ found sources d) : ∃ relative, doc.path = d.place relative := by
  obtain ⟨types, -, made⟩ := found_eq_packageDocuments regular (List.ne_nil_of_mem mem)
  rw [made] at mem
  exact Declaration.exists_place mem

theorem paths_answer_nodup (regular : ∀ d ∈ ds, d.IsRegular)
    (apart : ∀ d ∈ ds, ∀ e ∈ ds, ¬ d.IsRootOf e) (spread : ∀ d ∈ ds, SpreadFrom sources d) :
    ((answer sources c ds).map Document.path).Nodup := by
  rw [answer_eq_flatMap, List.map_flatMap, List.nodup_flatMap]
  have mem := fun {d} => @mem_of_mem_pending c ds d
  constructor
  · exact fun d chosen => paths_found_nodup (regular d (mem chosen)) (spread d (mem chosen))
  · have distinct := (keys_pending_nodup c ds).of_map
    apply distinct.imp_of_mem
    intro d e hd he differ path inside inside'
    obtain ⟨doc, made, rfl⟩ := List.mem_map.mp inside
    obtain ⟨doc', made', same⟩ := List.mem_map.mp inside'
    obtain ⟨relative, place⟩ := exists_place_of_found (regular d (mem hd)) made
    obtain ⟨relative', place'⟩ := exists_place_of_found (regular e (mem he)) made'
    rcases Dependency.eq_or_isRootOf_of_place_eq (regular d (mem hd)) (regular e (mem he))
      (place.symm.trans (same.symm.trans place')) with equal | root | root
    · exact differ equal
    · exact apart d (mem hd) e (mem he) root
    · exact apart e (mem he) d (mem hd) root

/-- Where each archive keeps the documents of its package apart, and no package's directory holds
that of another one, a call for packages that specifiers name gives documents with different places,
whatever the cache holds; so does the resolution that loads one package after the other. -/
theorem documents_keep_apart (respectful : Respectful sources) (c : Cache) (positive : 1 ≤ limit)
    {specifiers : List String} (read : Dependency.classify specifiers = ds)
    (apart : ∀ d ∈ ds, ∀ e ∈ ds, ¬ d.IsRootOf e) (spread : ∀ d ∈ ds, SpreadFrom sources d) :
    EndsIn (.ofSources sources respectful) limit
      (fun s => ∃ given, s.calls.map (·.control) = [.returned given] ∧
        (given.map Document.path).Nodup) (.start c [ds]) ∧
    ∃ given, ((resolve sources limit ds).run c).value.1 = .ok given ∧
      (given.map Document.path).Nodup := by
  have regular : ∀ d ∈ ds, d.IsRegular :=
    fun d mem => Dependency.isRegular_of_mem_classify (read ▸ mem)
  exact returns_of_answer respectful c positive (fun d mem => (regular d mem).name_ne_empty)
    (paths_answer_nodup regular apart spread)

/-- Packages of both registries, with and without tags, scopes and versions. -/
def several : List Dependency := Dependency.classify ["lodash", "npm:express@4", "jsr:@a/b"]

theorem several_keep_apart :
    EndsIn plainWorld 1
      (fun s => ∃ given, s.calls.map (·.control) = [.returned given] ∧
        (given.map Document.path).Nodup) (.start .empty [several]) ∧
    ∃ given, ((resolve plainSources 1 several).run .empty).value.1 = .ok given ∧
      (given.map Document.path).Nodup := by
  have apart : ∀ d ∈ several, ∀ e ∈ several, d.name ≠ e.registry := by decide +kernel
  have free : ∀ d ∈ several, d.relativePath "index.d.ts" ≠ "__types__.d.ts" := by decide +kernel
  refine documents_keep_apart respectful_plainSources .empty (Nat.le_refl 1) rfl
    (fun d hd e he root => apart d hd e he root.name) ?_
  intro d mem types told
  obtain rfl : ⟨"", [⟨"index.d.ts", []⟩]⟩ = types := Except.ok.inj told
  refine ⟨List.nodup_singleton _, ?_⟩
  intro general f only
  rw [List.mem_singleton.mp only]
  exact free d mem

def directive (path : String) : List UInt8 :=
  ("/// <reference path=\"" ++ path ++ "\" />").toList.map fun c => c.toNat.toUInt8

/-- Archives whose paths differ, but not without the archive's root, or not from the side-car, or
not from those of another package. -/
def crowdedFiles : String → List ArchiveFile
  | "@a/b" => [⟨"a.d.ts", [97]⟩, ⟨"package/a.d.ts", [98]⟩]
  | "chalk" => [⟨"index.d.ts", directive "__types__.d.ts"⟩, ⟨"__types__.d.ts", []⟩]
  | "lodash" => [⟨"index.d.ts", directive "fp/index.d.ts"⟩, ⟨"fp/index.d.ts", []⟩]
  | _ => [⟨"index.d.ts", []⟩]

def crowdedSources : Registry.Sources := fun _ name _ => pure ⟨"", crowdedFiles name⟩

/-- Different paths in each archive and different keys are not enough. -/
theorem not_all_documents_keep_apart :
    (∀ kind name version types, (crowdedSources kind name version).run.value = .ok types →
      (types.files.map ArchiveFile.path).Nodup) ∧
    ∀ specifiers ∈ [["jsr:@a/b"], ["chalk"], ["lodash", "lodash:fp"]],
      ((Dependency.classify specifiers).map Dependency.key).Nodup ∧
      ∃ given, ((resolve crowdedSources 1 (Dependency.classify specifiers)).run
        .empty).value.1.toOption = some given ∧ ¬ (given.map Document.path).Nodup := by
  constructor
  · intro kind name version types told
    obtain rfl : ⟨"", crowdedFiles name⟩ = types := Except.ok.inj told
    dsimp only
    unfold crowdedFiles
    split <;> decide
  · intro specifiers mem
    have keys : ∀ specifiers ∈ [["jsr:@a/b"], ["chalk"], ["lodash", "lodash:fp"]],
        ((Dependency.classify specifiers).map Dependency.key).Nodup := by decide +kernel
    have shared : ∀ specifiers ∈ [["jsr:@a/b"], ["chalk"], ["lodash", "lodash:fp"]],
        (((resolve crowdedSources 1 (Dependency.classify specifiers)).run
          .empty).value.1.toOption.any fun given => ¬ (given.map Document.path).Nodup) = true := by
      decide +kernel
    obtain ⟨given, returned, shared⟩ := (Option.any_eq_true _ _).mp (shared specifiers mem)
    exact ⟨keys specifiers mem, given, returned, of_decide_eq_true shared⟩

end AmbientTypes.Resolution
