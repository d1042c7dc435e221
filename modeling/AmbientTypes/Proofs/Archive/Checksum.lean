import AmbientTypes.Archive.Checksum
import Mathlib.Algebra.Group.Nat.Defs

namespace AmbientTypes.Archive

/-- The lowest bytes of a number, the lowest one first. -/
def littleBytes : (count : Nat) → Nat → List UInt8
  | 0, _ => []
  | count + 1, n => UInt8.ofNat n :: littleBytes count (n / 256)

/-- The lowest bytes of a number, the lowest one last. -/
def bigBytes (count n : Nat) : List UInt8 := (littleBytes count n).reverse

@[simp] theorem length_littleBytes (count n : Nat) : (littleBytes count n).length = count := by
  induction count generalizing n with
  | zero => rfl
  | succ count ih => rw [littleBytes, List.length_cons, ih]

@[simp] theorem length_bigBytes (count n : Nat) : (bigBytes count n).length = count := by
  rw [bigBytes, List.length_reverse, length_littleBytes]

theorem littleEndian_littleBytes (count n : Nat) :
    littleEndian (littleBytes count n) = n % 256 ^ count := by
  induction count generalizing n with
  | zero => simp [littleBytes, littleEndian, Nat.mod_one]
  | succ count ih =>
    rw [littleBytes, littleEndian, ih, UInt8.toNat_ofNat', Nat.pow_succ 256, Nat.mul_comm _ 256,
      Nat.mod_mul]

theorem bigEndian_reverse (bytes : List UInt8) : bigEndian bytes.reverse = littleEndian bytes := by
  rw [bigEndian, List.foldl_reverse]
  induction bytes with
  | nil => rfl
  | cons b bytes ih =>
    rw [List.foldr_cons, ih, littleEndian]
    omega

theorem bigEndian_bigBytes (count n : Nat) : bigEndian (bigBytes count n) = n % 256 ^ count := by
  rw [bigBytes, bigEndian_reverse, littleEndian_littleBytes]

end AmbientTypes.Archive
