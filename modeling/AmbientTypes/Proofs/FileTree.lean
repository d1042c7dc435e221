import AmbientTypes.FileTree
import Mathlib.Data.List.Basic

namespace AmbientTypes

theorem Location.isWithin_iff {l root : Location} : l.isWithin root = true ↔ root <+: l :=
  List.isPrefixOf_iff_prefix

namespace FileTree

variable {t after : FileTree} {l other : Location} {content : List UInt8}
  {files : List (Location × List UInt8)}

theorem lookup_putFile (l : Location) (content : List UInt8)
    (files : List (Location × List UInt8)) : (putFile l content files).lookup l = some content := by
  induction files with
  | nil => simp [putFile]
  | cons f files ih =>
    rw [putFile]
    split
    · simp
    · next different =>
      rw [List.lookup_cons, beq_eq_false_iff_ne.mpr (Ne.symm different)]
      exact ih

theorem lookup_putFile_of_ne (different : other ≠ l) :
    (putFile l content files).lookup other = files.lookup other := by
  have apart : (other == l) = false := beq_eq_false_iff_ne.mpr different
  induction files with
  | nil => simp [putFile, List.lookup_cons, apart]
  | cons f files ih =>
    rw [putFile]
    split
    · next same =>
      rw [List.lookup_cons, List.lookup_cons, same, apart]
    · rw [List.lookup_cons, List.lookup_cons, ih]

theorem file?_makeDirectory (made : t.makeDirectory l = .ok after) : after.file? = t.file? := by
  unfold makeDirectory at made
  split at made
  · rw [Except.ok.inj made]
  · split at made
    · cases made
    · rw [← Except.ok.inj made]
      rfl

theorem file?_write (written : t.write l content = .ok after) : after.file? l = some content := by
  unfold write at written
  split at written
  · cases written
  · split at written
    · cases written
    · rw [← Except.ok.inj written]
      exact lookup_putFile l content t.files

theorem file?_write_of_ne (different : other ≠ l) (written : t.write l content = .ok after) :
    after.file? other = t.file? other := by
  unfold write at written
  split at written
  · cases written
  · split at written
    · cases written
    · rw [← Except.ok.inj written]
      exact lookup_putFile_of_ne different

end FileTree

end AmbientTypes
