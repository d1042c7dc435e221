import AmbientTypes.Proofs.Archive.Unpack

namespace AmbientTypes.Archive

/-- A beginning of a text that misses some of it. -/
structure IsCut (start whole : List UInt8) : Prop where
  isPrefix : start <+: whole
  short : start ≠ whole

variable {start part rest : List UInt8}

namespace IsCut

theorem length_lt (cut : IsCut start part) : start.length < part.length := by
  rcases Nat.lt_or_ge start.length part.length with less | all
  · exact less
  · exact absurd (cut.isPrefix.eq_of_length_le all) cut.short

theorem not_nil : ¬ IsCut start [] := fun cut => Nat.not_lt_zero _ cut.length_lt

/-- The cut goes through the first part, or through what follows it. -/
theorem append_cases (cut : IsCut start (part ++ rest)) :
    IsCut start part ∨ ∃ start', IsCut start' rest ∧ start = part ++ start' := by
  rcases List.prefix_or_prefix_of_prefix cut.isPrefix (List.prefix_append part rest) with
    inside | ⟨start', rfl⟩
  · by_cases whole : start = part
    · subst whole
      refine .inr ⟨[], ⟨List.nil_prefix, ?_⟩, (List.append_nil _).symm⟩
      rintro rfl
      exact cut.short (List.append_nil _).symm
    · exact .inl ⟨inside, whole⟩
  · have inside := (List.prefix_append_right_inj part).mp cut.isPrefix
    exact .inr ⟨start', ⟨inside, fun same => cut.short (same ▸ rfl)⟩, rfl⟩

theorem cons_cases {b : UInt8} (cut : IsCut start (b :: rest)) :
    start = [] ∨ ∃ start', IsCut start' rest ∧ start = b :: start' := by
  rcases @append_cases start [b] rest cut with before | behind
  · exact .inl (List.length_eq_zero_iff.mp (Nat.lt_one_iff.mp before.length_lt))
  · exact .inr behind

end IsCut

namespace Inflate

variable {content : List UInt8} {b : Stored} {before : List Stored}

theorem bytes?_of_lt {count : Nat} (few : part.length < count) (pending : List Bool) :
    Bits.bytes? count ⟨pending, part⟩ = none := if_neg (Nat.not_le.mpr few)

/-- A stored block is cut in its lengths, where four bytes are needed, or in its data. -/
theorem stored_of_isCut (pending : List Bool) (out : Output)
    (cut : IsCut start (littleBytes 2 b.data.length ++
      (littleBytes 2 (0xFFFF - b.data.length) ++ b.data))) :
    stored out ⟨pending, start⟩ = .error .truncated := by
  rw [← List.append_assoc] at cut
  rcases cut.append_cases with early | ⟨data, late, rfl⟩
  · rw [stored, bytes?_of_lt (by simpa using early.length_lt)]
    rfl
  · rw [List.append_assoc, stored_lengths, bytes?_of_lt late.length_lt]
    rfl

theorem blocks_of_isCut_stored (last : Bool) (fuel : Nat) (out : Output)
    (cut : IsCut start (b.bytes last)) : blocks fuel out ⟨[], start⟩ = .error .truncated := by
  cases fuel with
  | zero => rfl
  | succ fuel =>
    rcases cut.cons_cases with rfl | ⟨lengths, inside, rfl⟩
    · rfl
    · obtain ⟨pending, header⟩ :=
        exists_number?_three (UInt8.ofNat (8 * b.filler + last.toNat)) lengths
      have type : (UInt8.ofNat (8 * b.filler + last.toNat)).toNat % 8 / 2 = 0 := by
        have bit := last.toNat_le
        rw [UInt8.toNat_ofNat']
        omega
      have failed := stored_of_isCut pending out inside
      rw [blocks, header]
      change (block (_ / 2) out _ >>= _) = _
      rw [type, block, failed]
      rfl

/-- Wherever the blocks are cut, the blocks before the cut are read and the next one fails. -/
theorem blocks_of_isCut (last : Stored) (fuel : Nat) (out : Output)
    (cut : IsCut start (before.flatMap (Stored.bytes false) ++ last.bytes true)) :
    blocks fuel out ⟨[], start⟩ = .error .truncated := by
  induction before generalizing fuel out start with
  | nil => exact blocks_of_isCut_stored true fuel out cut
  | cons b before ih =>
    rw [List.flatMap_cons, List.append_assoc] at cut
    rcases cut.append_cases with here | ⟨start, later, rfl⟩
    · exact blocks_of_isCut_stored false fuel out here
    · cases fuel with
      | zero => rfl
      | succ fuel =>
        rw [blocks_stored, if_neg Bool.false_ne_true]
        exact ih fuel _ later

theorem inflate_of_isCut (b : Blocks content) (cut : IsCut start b.bytes) :
    inflate start = .error .truncated := by
  unfold inflate
  change (blocks _ _ ⟨[], start⟩ >>= _) = _
  rw [blocks_of_isCut b.last _ _ cut]
  rfl

end Inflate

namespace Container

open Inflate

variable {content : List UInt8}

theorem split_of_lt {count : Nat} (few : part.length < count) :
    split count part = .error truncated := if_neg (Nat.not_le.mpr few)

theorem advance_of_lt {count : Nat} (few : part.length < count) :
    advance count part = .error truncated := if_neg (Nat.not_le.mpr few)

theorem dropText_of_not_mem (open_ : 0 ∉ part) : dropText part = .error truncated := by
  have all : part.dropWhile (· ≠ 0) = [] := by
    rw [List.dropWhile_eq_nil_iff]
    intro b mem
    simpa using fun zero : b = 0 => open_ (zero ▸ mem)
  rw [dropText, all]

theorem dropText_of_isCut (fresh : 0 ∉ part) (cut : IsCut start (part ++ [0])) :
    dropText start = .error truncated := by
  apply dropText_of_not_mem
  rcases cut.append_cases with inside | ⟨zero, behind, rfl⟩
  · exact fun mem => fresh (inside.isPrefix.subset mem)
  · have none : zero = [] := List.length_eq_zero_iff.mp (Nat.lt_one_iff.mp behind.length_lt)
    rwa [none, List.append_nil]

theorem dropSized_of_isCut (small : part.length < 2 ^ 16)
    (cut : IsCut start (littleBytes 2 part.length ++ part)) :
    dropSized start = .error truncated := by
  have size : littleEndian (littleBytes 2 part.length) = part.length :=
    (littleEndian_littleBytes 2 _).trans (Nat.mod_eq_of_lt small)
  rcases cut.append_cases with early | ⟨data, late, rfl⟩
  · rw [dropSized, split_of_lt (by simpa using early.length_lt)]
    rfl
  · rw [dropSized, split_append (length_littleBytes 2 part.length), ok_bind]
    dsimp only
    rw [size, advance_of_lt late.length_lt]

/-- A header checksum is two bytes, whatever it is of. -/
theorem dropHeaderChecksum_of_lt (few : part.length < 2) (whole : List UInt8) :
    dropHeaderChecksum whole part = .error truncated := by
  rw [dropHeaderChecksum, split_of_lt few]
  rfl

namespace GzipHeader

variable (h : GzipHeader)

theorem dropSized_of_isCut_extraPart (cut : IsCut start h.extraPart) :
    optionalPart h.extra.isSome dropSized start = .error truncated := by
  rw [extraPart] at cut
  revert cut
  cases h.extra with
  | none => exact fun cut => absurd cut IsCut.not_nil
  | some extra => exact dropSized_of_isCut extra.2

theorem dropText_of_isCut_textPart {text : Option {bytes : List UInt8 // 0 ∉ bytes}}
    (cut : IsCut start (textPart text)) :
    optionalPart text.isSome dropText start = .error truncated := by
  cases text with
  | none => exact absurd cut IsCut.not_nil
  | some text => exact dropText_of_isCut text.2 cut

theorem dropHeaderChecksum_of_isCut (whole : List UInt8) (cut : IsCut start h.sumPart) :
    optionalPart h.checked (dropHeaderChecksum whole) start = .error truncated := by
  rw [sumPart] at cut
  revert cut
  cases h.checked with
  | false => exact fun cut => absurd cut IsCut.not_nil
  | true => exact fun cut => dropHeaderChecksum_of_lt (by simpa using cut.length_lt) whole

/-- A header is missed in the part that the cut goes through, behind all parts before it. -/
theorem afterGzipHeader_of_isCut (cut : IsCut start h.bytes) :
    afterGzipHeader start = .error truncated := by
  obtain ⟨reserved, extra, name, comment, checked⟩ := h.hasFlag_flags
  have method : ([0x1F, 0x8B, 8, h.flags] : List UInt8).getD 2 0 = 8 := rfl
  have flags : ([0x1F, 0x8B, 8, h.flags] : List UInt8).getD 3 0 = h.flags := rfl
  simp only [bytes, unchecked, List.append_assoc] at cut
  rw [← List.append_assoc h.time.toList] at cut
  rw [afterGzipHeader]
  rcases cut.append_cases with early | ⟨start, fixed, rfl⟩
  · rw [@split_of_lt _ 4 early.length_lt, error_bind]
  rw [@split_append [0x1F, 0x8B, 8, h.flags] 4 rfl, ok_bind]
  dsimp only
  rw [method, flags, if_neg (by simp), reserved, if_neg Bool.false_ne_true, extra, name, comment,
    checked]
  rcases fixed.append_cases with early | ⟨start, parts, rfl⟩
  · rw [advance_of_lt (by simpa using early.length_lt), error_bind]
  rw [advance_append (by simp), ok_bind]
  rcases parts.append_cases with early | ⟨start, texts, rfl⟩
  · rw [h.dropSized_of_isCut_extraPart early, error_bind]
  rw [dropSized_extraPart, ok_bind]
  rcases texts.append_cases with early | ⟨start, last, rfl⟩
  · rw [dropText_of_isCut_textPart early, error_bind]
  rw [dropText_textPart, ok_bind]
  rcases last.append_cases with early | ⟨start, sum, rfl⟩
  · rw [dropText_of_isCut_textPart early, error_bind]
  rw [dropText_textPart, ok_bind, h.dropHeaderChecksum_of_isCut _ sum]

end GzipHeader

theorem body_of_isCut (blocks : Blocks content) (cut : IsCut start blocks.bytes) :
    body start = .error truncated := by
  rw [body, inflate_of_isCut blocks cut]
  rfl

theorem gzip_of_isCut (h : GzipHeader) (blocks : Blocks content)
    (cut : IsCut start ((Wrapper.gzip h).bytes blocks)) : gzip start = .error truncated := by
  rw [Wrapper.bytes] at cut
  rw [gzip]
  rcases cut.append_cases with early | ⟨start, data, rfl⟩
  · rw [h.afterGzipHeader_of_isCut early, error_bind]
  rw [h.afterGzipHeader_bytes, ok_bind]
  rcases data.append_cases with early | ⟨start, trailer, rfl⟩
  · rw [body_of_isCut blocks early, error_bind]
  rw [body_blocks, ok_bind]
  dsimp only
  rcases trailer.append_cases with early | ⟨start, size, rfl⟩
  · rw [split_of_lt (by simpa using early.length_lt), error_bind]
  rw [split_append (length_littleBytes 4 _), ok_bind]
  dsimp only
  rw [littleEndian_crc32, if_neg (by simp), split_of_lt (by simpa using size.length_lt), error_bind]

theorem zlib_of_isCut (h : ZlibHeader) (blocks : Blocks content)
    (cut : IsCut start (blocks.bytes ++ bigBytes 4 (adler32 content).toNat)) :
    zlib h.method h.flags start = .error truncated := by
  rw [zlib, if_neg (by simp [h.check]), if_neg (by simp [h.deflate]),
    if_neg (Nat.not_lt.mpr h.window), if_neg (by simp [hasFlag, h.plain])]
  rcases cut.append_cases with early | ⟨sum, late, rfl⟩
  · rw [body_of_isCut blocks early, error_bind]
  rw [body_blocks, ok_bind]
  dsimp only
  rw [split_of_lt (by simpa using late.length_lt), error_bind]

theorem decompress_of_isCut (w : Wrapper) (blocks : Blocks content)
    (cut : IsCut start (w.bytes blocks)) : decompress start = .error truncated := by
  cases w with
  | gzip h =>
    have whole := cut
    rw [Wrapper.bytes, GzipHeader.bytes, GzipHeader.unchecked, List.append_assoc,
      List.append_assoc] at cut
    rcases cut.cons_cases with rfl | ⟨start, second, rfl⟩
    · rfl
    rcases second.cons_cases with rfl | ⟨start, -, rfl⟩
    · rfl
    exact gzip_of_isCut h blocks whole
  | zlib h =>
    rcases cut.cons_cases with rfl | ⟨start, second, rfl⟩
    · rfl
    rcases second.cons_cases with rfl | ⟨start, data, rfl⟩
    · rfl
    change (if h.method = 0x1F && h.flags = 0x8B then _ else _) = _
    rw [if_neg (by simp [h.method_ne])]
    exact zlib_of_isCut h blocks data

end Container

open Container in
/-- Nothing is unpacked from an archive whose end is missing, be it all of it, a part of the data or
the last byte of the trailer. -/
theorem cut_archives_are_refused (items : List Tar.Item)
    (blocks : Inflate.Blocks (Tar.stream items)) (w : Wrapper) (start : List UInt8)
    (begins : start <+: w.bytes blocks) (short : start ≠ w.bytes blocks) :
    unpack start = .error (if start = [] then .empty else .container truncated) := by
  cases start with
  | nil => rfl
  | cons b start =>
    rw [unpack, if_neg (by simp), decompress_of_isCut w blocks ⟨begins, short⟩]
    rfl

/-- A gzip container that says its name and has a checksum of its header. -/
def namedWrapper : Container.Wrapper :=
  .gzip ⟨false, Vector.replicate 4 0, 2, 3, none, some ⟨[97, 46, 116, 97, 114], by decide⟩, none,
    true⟩

theorem sample_without_last_byte_is_refused :
    unpack (namedWrapper.bytes (Inflate.Blocks.bytewise (Tar.stream sample))).dropLast =
      .error (.container Container.truncated) := by
  have full := bytes_ne_nil (Inflate.Blocks.bytewise (Tar.stream sample)) namedWrapper
  have short : (namedWrapper.bytes (.bytewise (Tar.stream sample))).dropLast ≠
      namedWrapper.bytes (.bytewise (Tar.stream sample)) := by
    intro same
    have lengths := congrArg List.length same
    have positive := List.length_pos_iff.mpr full
    rw [List.length_dropLast] at lengths
    omega
  have refused := cut_archives_are_refused sample (.bytewise _) namedWrapper _
    (List.dropLast_prefix _) short
  have begun : (namedWrapper.bytes (.bytewise (Tar.stream sample))).dropLast ≠ [] :=
    List.cons_ne_nil _ _
  rwa [if_neg begun] at refused

end AmbientTypes.Archive
