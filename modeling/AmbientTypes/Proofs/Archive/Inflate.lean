import AmbientTypes.Archive.Inflate
import AmbientTypes.Proofs.Archive.Checksum

namespace AmbientTypes.Archive

namespace Inflate

/-- Data of a stored block, and the bits between its header and the next whole byte. -/
structure Stored where
  data : List UInt8
  fits : data.length < 2 ^ 16
  filler : Fin (2 ^ 5)

/-- A block: its mark and its type, which is zero, its length and the complement, and its data. -/
def Stored.bytes (last : Bool) (b : Stored) : List UInt8 :=
  UInt8.ofNat (8 * b.filler + last.toNat) ::
    (littleBytes 2 b.data.length ++ (littleBytes 2 (0xFFFF - b.data.length) ++ b.data))

/-- A cut of a content into stored blocks, at least one. -/
structure Blocks (content : List UInt8) where
  before : List Stored
  last : Stored
  whole : (before ++ [last]).flatMap Stored.data = content

/-- Every content can be cut, say into its bytes and an empty block. -/
def Blocks.bytewise (content : List UInt8) : Blocks content where
  before := content.map fun b => ⟨[b], by simp, 0⟩
  last := ⟨[], by decide, 0⟩
  whole := by simp [List.flatMap_map]

def Blocks.bytes {content : List UInt8} (b : Blocks content) : List UInt8 :=
  b.before.flatMap (Stored.bytes false) ++ b.last.bytes true

variable {content rest : List UInt8} {out : Output} {n : Nat}

/-- The first three bits of a byte. -/
theorem exists_number?_three (b : UInt8) (rest : List UInt8) :
    ∃ pending, Bits.number? 3 ⟨[], b :: rest⟩ = some (b.toNat % 8, ⟨pending, rest⟩) := by
  have value : (b.toNat.testBit 0).toNat + 2 * ((b.toNat.testBit 1).toNat +
      2 * ((b.toNat.testBit 2).toNat + 2 * 0)) = b.toNat % 8 := by
    simp only [Nat.toNat_testBit]
    omega
  rw [← value]
  exact ⟨_, rfl⟩

theorem word16_ofNat (small : n < 2 ^ 16) :
    word16 (UInt8.ofNat n) (UInt8.ofNat (n / 256)) = n := by
  rw [word16, UInt8.toNat_ofNat', UInt8.toNat_ofNat']
  omega

theorem bytes?_append {bytes : List UInt8} (pending : List Bool) (rest : List UInt8) :
    Bits.bytes? bytes.length ⟨pending, bytes ++ rest⟩ = some (bytes, ⟨[], rest⟩) := by
  rw [Bits.bytes?, if_pos (by simp), List.take_left, List.drop_left]

/-- Behind the lengths of a stored block, as many bytes are read as they say. -/
theorem stored_lengths (b : Stored) (out : Output) (pending : List Bool) (rest : List UInt8) :
    stored out ⟨pending, littleBytes 2 b.data.length ++
      (littleBytes 2 (0xFFFF - b.data.length) ++ rest)⟩ =
      (need (Bits.bytes? b.data.length ⟨[], rest⟩)).map
        fun read : List UInt8 × Bits => (out ++ read.1, read.2) := by
  have fits := b.fits
  have header := @bytes?_append (littleBytes 2 b.data.length ++
    littleBytes 2 (0xFFFF - b.data.length)) pending rest
  have complement : word16 (UInt8.ofNat b.data.length) (UInt8.ofNat (b.data.length / 256)) +
      word16 (UInt8.ofNat (0xFFFF - b.data.length))
        (UInt8.ofNat ((0xFFFF - b.data.length) / 256)) = 0xFFFF := by
    rw [word16_ofNat fits, word16_ofNat (by omega)]
    omega
  rw [List.append_assoc] at header
  unfold stored
  change (need (Bits.bytes? (littleBytes 2 b.data.length ++
    littleBytes 2 (0xFFFF - b.data.length)).length _) >>= _) = _
  rw [header]
  change (if _ then _ else _) = _
  rw [if_neg (by simpa using complement), word16_ofNat fits]
  cases need (Bits.bytes? b.data.length ⟨[], rest⟩) <;> rfl

theorem stored_data (b : Stored) (out : Output) (pending : List Bool) (rest : List UInt8) :
    stored out ⟨pending, littleBytes 2 b.data.length ++
      (littleBytes 2 (0xFFFF - b.data.length) ++ (b.data ++ rest))⟩ =
      .ok (out ++ b.data, ⟨[], rest⟩) := by
  rw [stored_lengths, bytes?_append]
  rfl

/-- A stored block is read as its data, and reading ends or goes on behind it. -/
theorem blocks_stored (b : Stored) (last : Bool) (fuel : Nat) (out : Output) (rest : List UInt8) :
    blocks (fuel + 1) out ⟨[], b.bytes last ++ rest⟩ =
      if last then .ok (out ++ b.data, ⟨[], rest⟩) else blocks fuel (out ++ b.data) ⟨[], rest⟩ := by
  have whole : b.bytes last ++ rest = UInt8.ofNat (8 * b.filler + last.toNat) ::
      (littleBytes 2 b.data.length ++ (littleBytes 2 (0xFFFF - b.data.length) ++
        (b.data ++ rest))) := by
    simp only [Stored.bytes, List.cons_append, List.append_assoc]
  obtain ⟨pending, header⟩ := exists_number?_three (UInt8.ofNat (8 * b.filler + last.toNat))
    (littleBytes 2 b.data.length ++ (littleBytes 2 (0xFFFF - b.data.length) ++ (b.data ++ rest)))
  have value : (UInt8.ofNat (8 * b.filler + last.toNat)).toNat % 8 = last.toNat := by
    have bit := last.toNat_le
    rw [UInt8.toNat_ofNat']
    omega
  rw [value] at header
  rw [whole, blocks, header]
  cases last with
  | false =>
    change (stored out _ >>= _) = _
    rw [stored_data]
    rfl
  | true =>
    change (stored out _ >>= _) = _
    rw [stored_data]
    rfl

theorem append_append (out : Output) (a b : List UInt8) : out ++ a ++ b = out ++ (a ++ b) :=
  Array.ext' (by simp)

/-- Blocks that are not marked are read one after the other. -/
theorem blocks_before (before : List Stored) (fuel : Nat) (out : Output) (rest : List UInt8) :
    blocks (before.length + fuel) out ⟨[], before.flatMap (Stored.bytes false) ++ rest⟩ =
      blocks fuel (out ++ before.flatMap Stored.data) ⟨[], rest⟩ := by
  induction before generalizing out with
  | nil => simp
  | cons b before ih =>
    have count : (b :: before).length + fuel = before.length + fuel + 1 := by
      rw [List.length_cons]
      omega
    rw [count, List.flatMap_cons, List.append_assoc, blocks_stored, if_neg Bool.false_ne_true, ih,
      List.flatMap_cons, append_append]

theorem length_before_le (before : List Stored) :
    before.length ≤ (before.flatMap (Stored.bytes false)).length := by
  induction before with
  | nil => simp
  | cons b before ih =>
    rw [List.flatMap_cons, List.length_append, List.length_cons, Stored.bytes, List.length_cons]
    omega

/-- Stored blocks are read as what has been cut into them; what follows is left. -/
theorem inflate_blocks (b : Blocks content) (rest : List UInt8) :
    inflate (b.bytes ++ rest) = .ok (content, rest) := by
  -- Each block takes at least a byte, so the bits are enough fuel for all of them.
  have enough := length_before_le b.before
  obtain ⟨fuel, count⟩ : ∃ fuel, (Bits.ofBytes (b.bytes ++ rest)).size + 1 =
      b.before.length + (fuel + 1) := by
    have size : (Bits.ofBytes (b.bytes ++ rest)).size = 8 * (b.bytes ++ rest).length := by
      simp [Bits.size, Bits.ofBytes]
    refine ⟨(Bits.ofBytes (b.bytes ++ rest)).size - b.before.length, ?_⟩
    rw [size, Blocks.bytes, List.length_append, List.length_append]
    omega
  have read : blocks ((Bits.ofBytes (b.bytes ++ rest)).size + 1) #[] ⟨[], b.bytes ++ rest⟩ =
      .ok (content.toArray, ⟨[], rest⟩) := by
    rw [count, Blocks.bytes, List.append_assoc, blocks_before, blocks_stored, if_pos rfl,
      append_append]
    have all := b.whole
    have same : (#[] : Output) ++ content = content.toArray := Array.ext' (by simp)
    rw [List.flatMap_append, List.flatMap_singleton] at all
    rw [all, same]
  unfold inflate
  change (blocks _ _ ⟨[], b.bytes ++ rest⟩ >>= _) = _
  rw [read]
  rfl

end Inflate

end AmbientTypes.Archive
