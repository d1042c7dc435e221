import AmbientTypes.Archive.Unpack
import AmbientTypes.Proofs.Archive.Container
import AmbientTypes.Proofs.Archive.Tar

namespace AmbientTypes.Archive

open Archive.Field Tar Inflate Container

theorem bytes_ne_nil {content : List UInt8} (blocks : Blocks content) (w : Wrapper) :
    w.bytes blocks ≠ [] := by
  cases w with
  | gzip h =>
    intro none
    have start := (List.append_eq_nil_iff.mp (List.append_eq_nil_iff.mp none).1).1
    cases start
  | zlib h => exact List.cons_ne_nil _ _

/-- What a container holds is unpacked as it is read without the container. -/
theorem unpack_bytes {raw : List UInt8} {found : List ArchiveFile}
    (read : files raw = .ok found) (blocks : Blocks raw) (w : Wrapper) :
    unpack (w.bytes blocks) = .ok found := by
  rw [unpack, if_neg (by simpa using bytes_ne_nil blocks w), decompress_bytes]
  change (files raw).mapError _ = _
  rw [read]
  rfl

/-- Exactly the regular files of an archive are unpacked, in their order, with their names and their
bytes, whatever members stand between them, however the archive is cut into blocks, and whatever the
header of the container says. -/
theorem unpack_stream (items : List Item) (blocks : Blocks (stream items)) (w : Wrapper) :
    unpack (w.bytes blocks) = .ok (items.filterMap Item.file?) := by
  rw [unpack, if_neg (by simpa using bytes_ne_nil blocks w), decompress_bytes]
  change (files (stream items)).mapError _ = _
  rw [files_stream]
  rfl

def blankNumeral (size : Nat) : Numeral size :=
  ⟨0, 0, List.replicate size 32, by decide, by simp, by simp⟩

def plainAttributes : Attributes :=
  ⟨blankNumeral 8, blankNumeral 8, blankNumeral 8, blankNumeral 12, Vector.replicate 32 0,
    Vector.replicate 32 0, blankNumeral 8, blankNumeral 8⟩

/-- A directory, a link and a file with a line feed in it. -/
def sample : List Item := [
  Unsummed.item ⟨⟨"package/", by decide, by decide⟩, plainAttributes, .directory, blankNumeral 12,
    rfl⟩,
  Unsummed.item ⟨⟨"package/läufer", by decide, by decide⟩, plainAttributes,
    .link (Vector.replicate 100 46), blankNumeral 12, rfl⟩,
  Unsummed.item ⟨⟨"package/index.d.ts", by decide, by decide⟩, plainAttributes, .file [10],
    ⟨1, 1, 0 :: List.replicate 10 32, by decide, by simp, rfl⟩, rfl⟩]

theorem unpack_sample : unpack ((Wrapper.zlib ⟨0x78, 0x9C, by decide, by decide, by decide,
    by decide⟩).bytes (Blocks.bytewise (stream sample))) = .ok [⟨"package/index.d.ts", [10]⟩] :=
  unpack_stream sample _ _

end AmbientTypes.Archive
