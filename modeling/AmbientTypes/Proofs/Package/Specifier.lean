import AmbientTypes.Package.Specifier

namespace AmbientTypes.Dependency

theorem name_ne_empty_of_dependency {parts : Specifier} (full : parts.package ≠ []) :
    parts.dependency.name ≠ "" := by
  intro empty
  have same := congrArg String.toList empty
  unfold Specifier.dependency at same
  dsimp only at same
  split at same
  · rw [String.toList_ofList] at same
    exact full same
  · rw [String.toList_ofList] at same
    cases same

theorem name_ne_empty_of_ofSpecifier? {s : String} {d : Dependency}
    (read : ofSpecifier? s = some d) : d.name ≠ "" := by
  unfold ofSpecifier? at read
  split at read
  · cases read
  · obtain ⟨parts, -, chosen⟩ := Option.bind_eq_some_iff.mp read
    split at chosen
    · cases chosen
    · next full =>
      obtain rfl := Option.some.inj chosen
      exact name_ne_empty_of_dependency (by simpa using full)

theorem name_ne_empty_of_mem_classify {specifiers : List String} {d : Dependency}
    (mem : d ∈ classify specifiers) : d.name ≠ "" := by
  obtain ⟨s, -, read⟩ := List.mem_filterMap.mp mem
  exact name_ne_empty_of_ofSpecifier? read

end AmbientTypes.Dependency
