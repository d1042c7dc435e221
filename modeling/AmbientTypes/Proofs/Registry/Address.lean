import AmbientTypes.Proofs.Text.Blank
import AmbientTypes.Proofs.Url.Percent
import AmbientTypes.Registry.General

namespace AmbientTypes

namespace Registry.General

open Url

theorem versionTag_eq (version : String) :
    versionTag version = if version = "" then "latest" else version := by
  simp [versionTag, latest]

/-- Two versions are asked for alike where they are the same, or both the latest one. -/
theorem versionTag_eq_iff {version version' : String} : versionTag version = versionTag version' ↔
    version = version' ∨ version ∈ ["", "latest"] ∧ version' ∈ ["", "latest"] := by
  simp only [versionTag_eq, List.mem_cons, List.not_mem_nil, or_false]
  split <;> split <;> grind

/-- The segments of an address are told apart by the slash between them. -/
theorem metadataAddress_eq_iff {base name name' version version' : String} :
    metadataAddress base name version = metadataAddress base name' version' ↔
      name = name' ∧ versionTag version = versionTag version' := by
  constructor
  · intro same
    have fresh : ∀ s, '/' ∉ (Percent.segment s).toList :=
      fun s => (Percent.standsFor_segment s).encoded.slash_not_mem
    have parts :
        (Percent.segment name).toList ++ '/' :: (Percent.segment (versionTag version)).toList =
          (Percent.segment name').toList ++
            '/' :: (Percent.segment (versionTag version')).toList := by
      simpa [metadataAddress, ← String.toList_inj] using same
    obtain ⟨first, -, second⟩ := (List.append_cons_inj_of_notMem (fresh _) (fresh _)).mp parts
    exact ⟨Percent.segment_inj.mp (String.toList_inj.mp first),
      Percent.segment_inj.mp (String.toList_inj.mp second)⟩
  · rintro ⟨rfl, tag⟩
    rw [metadataAddress, metadataAddress, tag]

/-- The address of metadata is the base without the slashes at its end and, behind it, two segments
that stand for the name and for the version, or for the latest one where none is given. So two
addresses below one base are the same only for one package and one version, the empty version being
the latest one. -/
theorem metadata_addresses_are_read_back (base name version : String) :
    ∃ (place first second : String) (slashes : Nat),
      base.toList = place.toList ++ List.replicate slashes '/' ∧
      place.toList.getLast? ≠ some '/' ∧
      metadataAddress base name version = place ++ "/" ++ first ++ "/" ++ second ∧
      Percent.StandsFor first name ∧
      Percent.StandsFor second (if version = "" then "latest" else version) ∧
      ∀ name' version', metadataAddress base name version = metadataAddress base name' version' ↔
        name = name' ∧
          (version = version' ∨ version ∈ ["", "latest"] ∧ version' ∈ ["", "latest"]) := by
  obtain ⟨slashes, whole, last⟩ := Text.exists_stripSlashes base
  refine ⟨Text.stripSlashes base, Percent.segment name, Percent.segment (versionTag version),
    slashes, whole, last, rfl, Percent.standsFor_segment name, ?_, ?_⟩
  · rw [← versionTag_eq]
    exact Percent.standsFor_segment (versionTag version)
  · intro name' version'
    rw [metadataAddress_eq_iff, versionTag_eq_iff]

example : metadataAddress "https://mirror.test//" "@a/b%2F" "" =
    "https://mirror.test/%40a%2Fb%252F/latest" := by decide +kernel

end Registry.General

end AmbientTypes
