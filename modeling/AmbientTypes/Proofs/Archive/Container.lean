import AmbientTypes.Archive.Container
import AmbientTypes.Proofs.Archive.Inflate
import AmbientTypes.Proofs.Except

namespace AmbientTypes.Archive.Container

open Inflate

/-- The header of a gzip container. Of the optional parts only the last one is checked. -/
structure GzipHeader where
  text : Bool
  time : Vector UInt8 4
  level : UInt8
  system : UInt8
  extra : Option {bytes : List UInt8 // bytes.length < 2 ^ 16}
  name : Option {bytes : List UInt8 // 0 ∉ bytes}
  comment : Option {bytes : List UInt8 // 0 ∉ bytes}
  checked : Bool

namespace GzipHeader

variable (h : GzipHeader)

def flags : UInt8 :=
  h.text.toUInt8 ||| h.checked.toUInt8 <<< 1 ||| h.extra.isSome.toUInt8 <<< 2 |||
    h.name.isSome.toUInt8 <<< 3 ||| h.comment.isSome.toUInt8 <<< 4

def extraPart : List UInt8 :=
  h.extra.elim [] fun extra => littleBytes 2 extra.1.length ++ extra.1

/-- A text that a zero byte closes. -/
def textPart (text : Option {bytes : List UInt8 // 0 ∉ bytes}) : List UInt8 :=
  text.elim [] fun text => text.1 ++ [0]

/-- The header up to its checksum. -/
def unchecked : List UInt8 :=
  [0x1F, 0x8B, 8, h.flags] ++ (h.time.toList ++ [h.level, h.system] ++
    (h.extraPart ++ (textPart h.name ++ textPart h.comment)))

def sumPart : List UInt8 :=
  if h.checked then littleBytes 2 (crc32 h.unchecked).toNat else []

def bytes : List UInt8 := h.unchecked ++ h.sumPart

end GzipHeader

/-- The two bytes of the header of a zlib container: the method with the size of the window, and the
flags, which make the header a multiple of 31 and announce no dictionary. -/
structure ZlibHeader where
  method : UInt8
  flags : UInt8
  deflate : method &&& 15 = 8
  window : method.toNat / 16 ≤ 7
  plain : flags &&& 32 = 0
  check : (method.toNat * 256 + flags.toNat) % 31 = 0

/-- No header of this kind begins like one of the other kind. -/
theorem ZlibHeader.method_ne (h : ZlibHeader) : h.method ≠ 0x1F := by
  intro same
  have deflate := h.deflate
  rw [same] at deflate
  exact absurd deflate (by decide)

/-- A container without its data. -/
inductive Wrapper where
  | gzip (header : GzipHeader)
  | zlib (header : ZlibHeader)

/-- A container of blocks, with the checksum of what has been cut into them in its trailer. -/
def Wrapper.bytes {content : List UInt8} (blocks : Blocks content) : Wrapper → List UInt8
  | gzip header => header.bytes ++ (blocks.bytes ++
      (littleBytes 4 (crc32 content).toNat ++ littleBytes 4 content.length))
  | zlib header => [header.method, header.flags] ++ (blocks.bytes ++
      bigBytes 4 (adler32 content).toNat)

variable {content part rest : List UInt8}

theorem split_append {count : Nat} (length : part.length = count) (rest : List UInt8) :
    split count (part ++ rest) = .ok (part, rest) := by
  rw [← length, split, if_pos (by simp), List.take_left, List.drop_left]

theorem advance_append {count : Nat} (length : part.length = count) (rest : List UInt8) :
    advance count (part ++ rest) = .ok rest := by
  rw [← length, advance, if_pos (by simp), List.drop_left]

theorem dropText_append (whole : 0 ∉ part) (rest : List UInt8) :
    dropText (part ++ 0 :: rest) = .ok rest := by
  have passed : (part ++ 0 :: rest).dropWhile (· ≠ 0) = 0 :: rest := by
    rw [List.dropWhile_append_of_pos, List.dropWhile_cons_of_neg (by simp)]
    intro b mem
    simpa using fun zero : b = 0 => whole (zero ▸ mem)
  rw [dropText, passed]

theorem dropSized_append (small : part.length < 2 ^ 16) (rest : List UInt8) :
    dropSized (littleBytes 2 part.length ++ (part ++ rest)) = .ok rest := by
  have size : littleEndian (littleBytes 2 part.length) = part.length :=
    (littleEndian_littleBytes 2 _).trans (Nat.mod_eq_of_lt small)
  rw [dropSized, split_append (length_littleBytes 2 part.length), ok_bind]
  dsimp only
  rw [size, advance_append rfl]

namespace GzipHeader

variable (h : GzipHeader)

theorem hasFlag_flags :
    hasFlag h.flags 0xE0 = false ∧ hasFlag h.flags 4 = h.extra.isSome ∧
      hasFlag h.flags 8 = h.name.isSome ∧ hasFlag h.flags 16 = h.comment.isSome ∧
      hasFlag h.flags 2 = h.checked := by
  unfold flags
  generalize h.text = a, h.extra.isSome = b, h.name.isSome = c, h.comment.isSome = d,
    h.checked = e
  revert a b c d e
  decide

theorem dropSized_extraPart (rest : List UInt8) :
    optionalPart h.extra.isSome dropSized (h.extraPart ++ rest) = .ok rest := by
  rw [extraPart]
  cases h.extra with
  | none => rfl
  | some extra =>
    rw [Option.elim_some, List.append_assoc]
    exact dropSized_append extra.2 rest

theorem dropText_textPart (text : Option {bytes : List UInt8 // 0 ∉ bytes})
    (rest : List UInt8) : optionalPart text.isSome dropText (textPart text ++ rest) = .ok rest := by
  cases text with
  | none => rfl
  | some text =>
    rw [textPart, Option.elim_some, List.append_assoc]
    exact dropText_append text.2 rest

theorem dropHeaderChecksum_append (part rest : List UInt8) :
    dropHeaderChecksum (part ++ (littleBytes 2 (crc32 part).toNat ++ rest))
      (littleBytes 2 (crc32 part).toNat ++ rest) = .ok rest := by
  have before : ∀ more : List UInt8, (part ++ more).take ((part ++ more).length - more.length) =
      part := by
    intro more
    rw [List.length_append, Nat.add_sub_cancel, List.take_left]
  rw [dropHeaderChecksum, split_append (length_littleBytes 2 _), ok_bind]
  dsimp only
  rw [before, littleEndian_littleBytes]
  exact if_pos rfl

theorem dropHeaderChecksum_bytes (rest : List UInt8) :
    optionalPart h.checked (dropHeaderChecksum (h.bytes ++ rest)) (h.sumPart ++ rest) =
      .ok rest := by
  rw [bytes, sumPart]
  cases h.checked with
  | false => rfl
  | true =>
    rw [if_pos rfl, List.append_assoc]
    exact dropHeaderChecksum_append h.unchecked rest

/-- A header is passed over, whatever optional parts it has. -/
theorem afterGzipHeader_bytes (rest : List UInt8) :
    afterGzipHeader (h.bytes ++ rest) = .ok rest := by
  obtain ⟨reserved, extra, name, comment, checked⟩ := h.hasFlag_flags
  have start : split 4 (h.bytes ++ rest) = .ok ([0x1F, 0x8B, 8, h.flags],
      (h.time.toList ++ [h.level, h.system]) ++ (h.extraPart ++ (textPart h.name ++
        (textPart h.comment ++ (h.sumPart ++ rest))))) := by
    simp only [bytes, unchecked, List.append_assoc]
    exact @split_append [0x1F, 0x8B, 8, h.flags] 4 rfl _
  have method : ([0x1F, 0x8B, 8, h.flags] : List UInt8).getD 2 0 = 8 := rfl
  have flags : ([0x1F, 0x8B, 8, h.flags] : List UInt8).getD 3 0 = h.flags := rfl
  rw [afterGzipHeader, start, ok_bind]
  dsimp only
  rw [method, flags, if_neg (by simp), reserved, if_neg Bool.false_ne_true,
    advance_append (by simp), ok_bind, extra, dropSized_extraPart, ok_bind, name,
    dropText_textPart, ok_bind, comment, dropText_textPart, ok_bind, checked,
    dropHeaderChecksum_bytes]

end GzipHeader

theorem littleEndian_crc32 (bytes : List UInt8) :
    littleEndian (littleBytes 4 (crc32 bytes).toNat) = (crc32 bytes).toNat := by
  rw [littleEndian_littleBytes]
  exact Nat.mod_eq_of_lt (crc32 bytes).toNat_lt

theorem body_blocks (blocks : Blocks content) (rest : List UInt8) :
    body (blocks.bytes ++ rest) = .ok (content, rest) := by
  rw [body, inflate_blocks]
  rfl

theorem gzip_bytes (h : GzipHeader) (blocks : Blocks content) :
    gzip ((Wrapper.gzip h).bytes blocks) = .ok content := by
  rw [gzip, Wrapper.bytes, h.afterGzipHeader_bytes, ok_bind, body_blocks, ok_bind]
  dsimp only
  rw [split_append (length_littleBytes 4 _), ok_bind]
  dsimp only
  rw [littleEndian_crc32, if_neg (by simp), ← List.append_nil (littleBytes 4 content.length),
    split_append (length_littleBytes 4 _), ok_bind]
  dsimp only
  rw [littleEndian_littleBytes, if_neg (by simp)]

theorem zlib_bytes (h : ZlibHeader) (blocks : Blocks content) :
    zlib h.method h.flags (blocks.bytes ++ bigBytes 4 (adler32 content).toNat) = .ok content := by
  have sum : bigEndian (bigBytes 4 (adler32 content).toNat) = (adler32 content).toNat := by
    rw [bigEndian_bigBytes]
    exact Nat.mod_eq_of_lt (adler32 content).toNat_lt
  rw [zlib, if_neg (by simp [h.check]), if_neg (by simp [h.deflate]),
    if_neg (Nat.not_lt.mpr h.window), if_neg (by simp [hasFlag, h.plain]), body_blocks, ok_bind]
  dsimp only
  rw [← List.append_nil (bigBytes 4 (adler32 content).toNat), split_append (length_bigBytes 4 _),
    ok_bind]
  dsimp only
  rw [sum, if_neg (by simp)]

/-- A container is read as what has been put into it. -/
theorem decompress_bytes (w : Wrapper) (blocks : Blocks content) :
    decompress (w.bytes blocks) = .ok content := by
  cases w with
  | gzip h => exact gzip_bytes h blocks
  | zlib h =>
    change (if h.method = 0x1F && h.flags = 0x8B then _ else _) = _
    rw [if_neg (by simp [h.method_ne])]
    exact zlib_bytes h blocks

end AmbientTypes.Archive.Container
