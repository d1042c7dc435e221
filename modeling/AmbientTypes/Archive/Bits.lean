namespace AmbientTypes.Archive

/-- The unread bits of a byte that has been begun, and the bytes behind it. -/
structure Bits where
  pending : List Bool
  bytes : List UInt8
  deriving DecidableEq, Repr

namespace Bits

def ofBytes (bytes : List UInt8) : Bits := ⟨[], bytes⟩

/-- The bits of a byte, the lowest first. -/
def ofByte (b : UInt8) : List Bool := (List.range 8).map b.toNat.testBit

def size (s : Bits) : Nat := s.pending.length + 8 * s.bytes.length

def bit? (s : Bits) : Option (Bool × Bits) :=
  match s.pending, s.bytes with
  | b :: pending, bytes => some (b, ⟨pending, bytes⟩)
  | [], byte :: bytes =>
    match ofByte byte with
    | b :: pending => some (b, ⟨pending, bytes⟩)
    | [] => none
  | [], [] => none

/-- Reads a number of the given width, its lowest bit first. -/
def number? : (width : Nat) → Bits → Option (Nat × Bits)
  | 0, s => some (0, s)
  | width + 1, s => do
    let (b, s) ← s.bit?
    let (n, s) ← number? width s
    some (b.toNat + 2 * n, s)

/-- Reads whole bytes behind the byte that has been begun. -/
def bytes? (count : Nat) (s : Bits) : Option (List UInt8 × Bits) :=
  if count ≤ s.bytes.length then some (s.bytes.take count, ⟨[], s.bytes.drop count⟩) else none

end Bits

end AmbientTypes.Archive
