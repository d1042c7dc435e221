import AmbientTypes.Proofs.Declaration.Addressable
import AmbientTypes.Proofs.Package.Specifier
import AmbientTypes.Proofs.Resolution.Answer
import Mathlib.Data.List.Find
import Mathlib.Data.List.Infix

namespace AmbientTypes.Resolution

/-- The module of a package's key is in one of the documents. -/
def Serves (given : List Document) (d : Dependency) : Prop :=
  ∃ doc ∈ given, Declaration.Names d doc.content

instance (d : Dependency) (content : String) : Decidable (Declaration.Names d content) :=
  inferInstanceAs (Decidable (_ <:+: _))

instance (given : List Document) (d : Dependency) : Decidable (Serves given d) :=
  inferInstanceAs (Decidable (∃ doc ∈ given, _))

variable {sources : Registry.Sources} {limit : Nat} {c : Cache} {ds : List Dependency}
  {d : Dependency}

/-- The documents of a package that a specifier names are made of its declarations. -/
theorem found_eq_packageDocuments (regular : d.IsRegular) (some : found sources d ≠ []) :
    ∃ types, (declarations sources d).run.value = .ok types ∧
      found sources d = Declaration.packageDocuments d types := by
  have named := regular.name_ne_empty
  unfold found at some ⊢
  rw [documents_value, if_neg named] at some ⊢
  cases told : (declarations sources d).run.value with
  | error e =>
    rw [told] at some
    exact absurd rfl some
  | ok types =>
    rw [told] at some
    obtain ⟨events, made⟩ := Declaration.documents_eq regular types
    dsimp only at some ⊢
    rw [generate_value, made] at some ⊢
    by_cases empty : types.files.isEmpty = true
    · rw [if_pos empty] at some
      exact absurd rfl some
    · rw [if_neg empty]
      exact ⟨types, rfl, rfl⟩

theorem serves_found (regular : d.IsRegular) (some : found sources d ≠ []) :
    Serves (found sources d) d := by
  obtain ⟨types, -, made⟩ := found_eq_packageDocuments regular some
  rw [made] at some ⊢
  exact Declaration.exists_names some

/-- Among packages that specifiers name, the first with a key is the first with its name and its
version. -/
theorem find?_key_eq (regular : ∀ e ∈ ds, e.IsRegular) (mem : d ∈ ds) :
    ds.find? (·.key = d.key) = ds.find? (fun e => e.name = d.name ∧ e.version = d.version) := by
  apply List.find?_congr
  intro e mem'
  apply decide_eq_decide.mpr
  constructor
  · exact fun same => (regular e mem').eq_of_key_eq (regular d mem) same
  · intro h
    rw [Dependency.key, Dependency.key, h.1, h.2]

/-- Where each of the packages that specifiers name has documents, a call with an empty cache
serves, for each of them, the first that has its name and its version; so does the resolution that
loads one package after the other. -/
theorem first_imports_are_served (respectful : Respectful sources) (positive : 1 ≤ limit)
    {specifiers : List String} (read : Dependency.classify specifiers = ds)
    (some : ∀ d ∈ ds, found sources d ≠ []) :
    let served := fun given => ∀ d ∈ ds,
      ∃ first, ds.find? (fun e => e.name = d.name ∧ e.version = d.version) = Option.some first ∧
        Serves given first
    EndsIn (.ofSources sources respectful) limit
      (fun s => ∃ given, s.calls.map (·.control) = [.returned given] ∧ served given)
      (.start .empty [ds]) ∧
    ∃ given, ((resolve sources limit ds).run .empty).value.1 = .ok given ∧ served given := by
  have regular : ∀ d ∈ ds, d.IsRegular :=
    fun d mem => Dependency.isRegular_of_mem_classify (read ▸ mem)
  apply returns_of_answer respectful .empty positive
  · exact fun d mem => (regular d mem).name_ne_empty
  · intro d mem
    rcases holds_or_pending .empty mem with held | ⟨first, chosen, same⟩
    · exact absurd held (by simp [Cache.holds_iff, Cache.empty])
    · have mem' := mem_of_mem_pending chosen
      obtain ⟨doc, made, names⟩ := serves_found (regular first mem') (some first mem')
      refine ⟨first, ?_, doc, ?_, names⟩
      · rw [← find?_key_eq regular mem, ← same]
        exact (mem_pending_iff.mp chosen).2
      · rw [answer_eq_flatMap]
        exact List.mem_flatMap.mpr ⟨first, chosen, made⟩

/-- One package in two registries. -/
def twice : List Dependency := Dependency.classify ["express", "npm:express"]

theorem first_of_twice_is_served :
    let served := fun given => ∀ d ∈ twice,
      ∃ first, twice.find? (fun e => e.name = d.name ∧ e.version = d.version) = some first ∧
        Serves given first
    EndsIn plainWorld 1
      (fun s => ∃ given, s.calls.map (·.control) = [.returned given] ∧ served given)
      (.start .empty [twice]) ∧
    ∃ given, ((resolve plainSources 1 twice).run .empty).value.1 = .ok given ∧ served given :=
  first_imports_are_served respectful_plainSources (Nat.le_refl 1) rfl (by decide +kernel)

/-- Only the first of two imports is served, though both have documents on their own. -/
theorem not_all_imports_are_served :
    (∀ d ∈ twice, found plainSources d ≠ []) ∧
    ∃ given, ((resolve plainSources 1 twice).run .empty).value.1.toOption = some given ∧
      ¬ ∀ d ∈ twice, Serves given d := by
  constructor
  · decide +kernel
  · have lost : (((resolve plainSources 1 twice).run .empty).value.1.toOption.any
        fun given => ¬ ∀ d ∈ twice, Serves given d) = true := by decide +kernel
    obtain ⟨given, returned, lost⟩ := (Option.any_eq_true _ _).mp lost
    exact ⟨given, returned, of_decide_eq_true lost⟩

end AmbientTypes.Resolution
