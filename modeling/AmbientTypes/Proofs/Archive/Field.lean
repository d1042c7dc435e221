import AmbientTypes.Archive.Field
import AmbientTypes.Proofs.Text.Blank
import AmbientTypes.Proofs.Text.Utf8
import Mathlib.Algebra.Group.Nat.Defs
import Mathlib.Data.List.TakeWhile

namespace AmbientTypes.Archive.Field

/-- The last octal digit of a number. -/
def digit (n : Nat) : UInt8 := UInt8.ofNat (48 + n % 8)

/-- The last octal digits of a number, the given count of them. -/
def octal : (width : Nat) → Nat → List UInt8
  | 0, _ => []
  | width + 1, n => octal width (n / 8) ++ [digit n]

/-- A number as it is written in a field: in any count of digits that it fits, with blanks or zero
bytes behind them. -/
structure Numeral (size : Nat) where
  value : Nat
  width : Nat
  ending : List UInt8
  fits : value < 8 ^ width
  closed : ∀ b ∈ ending, b = 32 ∨ b = 0
  length : width + ending.length = size

def Numeral.bytes {size : Nat} (n : Numeral size) : List UInt8 := octal n.width n.value ++ n.ending

/-- Bytes with zeros behind them, up to a size. -/
def padded (size : Nat) (bytes : List UInt8) : List UInt8 :=
  bytes ++ List.replicate (size - bytes.length) 0

def charOf (b : UInt8) : Char := Char.ofNat b.toNat

variable {size width n value : Nat} {after : Bool} {b : UInt8} {bytes rest : List UInt8} {c : Char}
  {cs ends : List Char}

@[simp] theorem length_octal (width n : Nat) : (octal width n).length = width := by
  induction width generalizing n with
  | zero => rfl
  | succ width ih => rw [octal, List.length_append, ih, List.length_singleton]

@[simp] theorem Numeral.length_bytes (n : Numeral size) : n.bytes.length = size := by
  rw [bytes, List.length_append, length_octal, n.length]

@[simp] theorem length_padded (fits : bytes.length ≤ size) : (padded size bytes).length = size := by
  rw [padded, List.length_append, List.length_replicate]
  omega

theorem used_append (whole : 0 ∉ bytes) (rest : List UInt8) :
    used (bytes ++ rest) = bytes ++ used rest := by
  apply List.takeWhile_append_of_pos
  intro b mem
  simpa using fun zero : b = 0 => whole (zero ▸ mem)

@[simp] theorem used_zero (rest : List UInt8) : used (0 :: rest) = [] :=
  List.takeWhile_cons_of_neg (by simp)

theorem exists_digit (mem : b ∈ octal width n) : ∃ m, b = digit m := by
  induction width generalizing n with
  | zero => cases mem
  | succ width ih =>
    rcases List.mem_append.mp mem with early | last
    · exact ih early
    · exact ⟨n, List.mem_singleton.mp last⟩

/-- A digit is a byte of ASCII, and read as a character it is neither blank nor a mark. -/
theorem digit_spec (n : Nat) :
    digit n ∉ [0, 0x80, 0xFF] ∧ digit n < 128 ∧ Text.isBlank (charOf (digit n)) = false ∧
      charOf (digit n) ∉ ['-', '+', 'o', 'O'] := by
  have all : ∀ k < 8, UInt8.ofNat (48 + k) ∉ [0, 0x80, 0xFF] ∧ UInt8.ofNat (48 + k) < 128 ∧
      Text.isBlank (charOf (UInt8.ofNat (48 + k))) = false ∧
      charOf (UInt8.ofNat (48 + k)) ∉ ['-', '+', 'o', 'O'] := by decide
  exact all (n % 8) (Nat.mod_lt n (by decide))

theorem octalDigits_cons_digit (n : Nat) :
    octalDigits value after (charOf (digit n) :: cs) = octalDigits (value * 8 + n % 8) true cs := by
  have all : ∀ k < 8, ('0' ≤ charOf (UInt8.ofNat (48 + k)) &&
      charOf (UInt8.ofNat (48 + k)) ≤ '7') = true ∧
      (charOf (UInt8.ofNat (48 + k))).toNat - 48 = k := by decide
  obtain ⟨octal, same⟩ := all (n % 8) (Nat.mod_lt n (by decide))
  rw [octalDigits, digit, if_pos octal, same]

theorem octalDigits_octal (small : n < 8 ^ width) :
    octalDigits value after ((octal width n).map charOf ++ cs) =
      octalDigits (value * 8 ^ width + n) (after || decide (0 < width)) cs := by
  induction width generalizing n cs with
  | zero =>
    have none : n = 0 := by simpa using small
    simp [octal, none]
  | succ width ih =>
    rw [Nat.pow_succ] at small
    have sum : (value * 8 ^ width + n / 8) * 8 + n % 8 = value * (8 ^ width * 8) + n := by
      rw [Nat.add_mul, Nat.mul_assoc]
      omega
    rw [octal, List.map_append, List.append_assoc, ih (by omega), List.map_singleton,
      List.singleton_append, octalDigits_cons_digit, Nat.pow_succ, sum]
    simp

theorem markedDigits_of_not_mem (plain : 'o' ∉ cs) (plain' : 'O' ∉ cs) :
    markedDigits cs = octalDigits 0 false cs := by
  have other : ∀ c ∈ cs, ¬ (decide (c = 'o') || decide (c = 'O')) = true := by
    intro c mem
    have lower : c ≠ 'o' := fun same => plain (same ▸ mem)
    have upper : c ≠ 'O' := fun same => plain' (same ▸ mem)
    simp [lower, upper]
  unfold markedDigits
  split
  · next c _ => rw [if_neg (other c (by simp))]
  · next c _ _ => rw [if_neg (other c (by simp))]
  · rfl

theorem trimWhile_append {p : Char → Bool} (none : ∀ c ∈ cs, p c = false)
    (all : ∀ c ∈ ends, p c = true) : Text.trimWhile p (cs ++ ends) = cs := by
  rw [Text.trimWhile]
  cases cs with
  | nil =>
    rw [List.nil_append, List.dropWhile_eq_nil_iff.mpr all]
    rfl
  | cons c cs =>
    have start : ¬ p c = true := by simp [none c List.mem_cons_self]
    rw [List.cons_append, List.dropWhile_cons_of_neg start]
    rw [← List.cons_append, Text.dropEndWhile_append all, Text.dropEndWhile_eq_self_iff]
    exact fun d last => none d (List.mem_of_getLast? last)

theorem isPlain_octal (mem : c ∈ (octal width n).map charOf) :
    Text.isBlank c = false ∧ c ∉ ['-', '+', 'o', 'O'] := by
  obtain ⟨b, inside, rfl⟩ := List.mem_map.mp mem
  obtain ⟨m, rfl⟩ := exists_digit inside
  exact (digit_spec m).2.2

/-- A number is read off its digits, with blanks behind them. -/
theorem octal?_append (small : n < 8 ^ width) (blank : ∀ b ∈ rest, b = 32) :
    octal? (octal width n ++ rest) = some (n : Int) := by
  have blanks : ∀ c ∈ rest.map charOf, Text.isBlank c = true := by
    intro c mem
    obtain ⟨b, inside, rfl⟩ := List.mem_map.mp mem
    rw [blank b inside]
    decide
  have trimmed : Text.trimWhile Text.isBlank
      ((octal width n ++ rest).map fun b => Char.ofNat b.toNat) = (octal width n).map charOf := by
    rw [List.map_append]
    exact trimWhile_append (fun c mem => (isPlain_octal mem).1) blanks
  have value := @octalDigits_octal width n 0 false [] small
  rw [List.append_nil, Nat.zero_mul, Nat.zero_add] at value
  rw [octal?, trimmed]
  -- No digits at all are read as zero; if there are some, the first one is no sign.
  cases width with
  | zero =>
    obtain rfl : n = 0 := by simpa using small
    rfl
  | succ width =>
    have some : (octal (width + 1) n).map charOf ≠ [] := by simp [octal]
    have plain : ∀ c ∈ ['-', '+', 'o', 'O'], c ∉ (octal (width + 1) n).map charOf :=
      fun c mark mem => (isPlain_octal mem).2 mark
    generalize (octal (width + 1) n).map charOf = cs at value some plain
    split
    · exact absurd rfl some
    · exact absurd List.mem_cons_self (plain '-' (by decide))
    · exact absurd List.mem_cons_self (plain '+' (by decide))
    · rw [markedDigits_of_not_mem (plain 'o' (by decide)) (plain 'O' (by decide)), value]
      rfl

theorem number?_of_ascii (ascii : ∀ b ∈ bytes, b < 128) :
    number? bytes = octal? (used bytes) := by
  cases bytes with
  | nil => rfl
  | cons b bytes =>
    have first : b ≠ 0x80 ∧ b ≠ 0xFF := by
      have small := ascii b List.mem_cons_self
      constructor <;> (rintro rfl; exact absurd small (by decide))
    have all : (used (b :: bytes)).all (· < 128) = true := by
      rw [List.all_eq_true]
      intro c mem
      exact decide_eq_true (ascii c ((List.takeWhile_prefix _).subset mem))
    rw [number?, if_neg first.1, if_neg first.2, if_pos all]

/-- A number is read off its field. -/
theorem Numeral.number?_bytes (n : Numeral size) : number? n.bytes = some (n.value : Int) := by
  have digits : ∀ b ∈ octal n.width n.value, b ∉ [0, 0x80, 0xFF] ∧ b < 128 := by
    intro b mem
    obtain ⟨m, rfl⟩ := exists_digit mem
    exact ⟨(digit_spec m).1, (digit_spec m).2.1⟩
  have ascii : ∀ b ∈ n.bytes, b < 128 := by
    intro b mem
    rcases List.mem_append.mp mem with digit | ending
    · exact (digits b digit).2
    · rcases n.closed b ending with rfl | rfl <;> decide
  rw [number?_of_ascii ascii, bytes, used_append fun zero => (digits 0 zero).1 (by decide)]
  apply octal?_append n.fits
  intro b mem
  rcases n.closed b ((List.takeWhile_prefix _).subset mem) with blank | zero
  · exact blank
  · exact absurd zero (by simpa using List.mem_takeWhile_imp mem)

theorem used_padded (whole : 0 ∉ bytes) (size : Nat) : used (padded size bytes) = bytes := by
  rw [padded, used_append whole]
  cases size - bytes.length with
  | zero => exact List.append_nil bytes
  | succ count => rw [List.replicate_succ, used_zero, List.append_nil]

theorem zero_not_mem_utf8EncodeChar (some : c ≠ '\x00') : 0 ∉ String.utf8EncodeChar c := by
  intro mem
  rcases Text.Utf8.utf8EncodeChar_cases c with ⟨-, bytes⟩ | ⟨-, high⟩
  · have zero := List.mem_map_of_mem (f := UInt8.toNat) mem
    rw [bytes, List.mem_singleton] at zero
    exact some (Char.toNat_inj.mp zero.symm)
  · exact absurd (high 0 mem) (by decide)

/-- A text is read off its field. -/
theorem text_padded {size : Nat} (whole : '\x00' ∉ cs) :
    text (padded size (Text.Utf8.encode cs)) = String.ofList cs := by
  have zero : 0 ∉ Text.Utf8.encode cs := by
    intro mem
    obtain ⟨c, mem, zero⟩ := List.mem_flatMap.mp mem
    exact zero_not_mem_utf8EncodeChar (fun same => whole (same ▸ mem)) zero
  rw [text, used_padded zero, Text.Utf8.decodeLossy_encode]

end AmbientTypes.Archive.Field
