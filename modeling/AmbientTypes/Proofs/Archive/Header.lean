import AmbientTypes.Archive.Tar
import AmbientTypes.Proofs.Archive.Field
import Mathlib.Algebra.GroupWithZero.Nat

namespace AmbientTypes.Archive.Tar

open Archive.Field

/-- A name that fits its field. -/
structure Name where
  text : String
  fits : (Text.Utf8.encode text.toList).length ≤ 100
  whole : '\x00' ∉ text.toList

/-- What a header says of a member that is of no matter for its unpacking. -/
structure Attributes where
  mode : Numeral 8
  owner : Numeral 8
  group : Numeral 8
  time : Numeral 12
  ownerName : Vector UInt8 32
  groupName : Vector UInt8 32
  major : Numeral 8
  minor : Numeral 8

inductive Content where
  | file (data : List UInt8)
  | directory
  | link (target : Vector UInt8 100)

namespace Content

def data : Content → List UInt8
  | file data => data
  | directory | link _ => []

def type : Content → Char
  | file _ => '0'
  | directory => '5'
  | link _ => '2'

def target : Content → List UInt8
  | file _ | directory => padded 100 []
  | link target => target.toList

end Content

/-- The mark of the format, and its version. -/
def magic : List UInt8 := [117, 115, 116, 97, 114, 0, 48, 48]

/-- A header without its checksum. -/
structure Unsummed where
  name : Name
  attributes : Attributes
  content : Content
  size : Numeral 12
  counted : size.value = content.data.length

namespace Unsummed

variable (u : Unsummed)

/-- The fields up to that of the checksum. -/
def frontFields : List (List UInt8) :=
  [padded 100 (Text.Utf8.encode u.name.text.toList), u.attributes.mode.bytes,
    u.attributes.owner.bytes, u.attributes.group.bytes, u.size.bytes, u.attributes.time.bytes]

/-- The fields behind that of the checksum; the second part of the name is empty. -/
def backFields : List (List UInt8) :=
  [[u.content.type.toUInt8], u.content.target, magic, u.attributes.ownerName.toList,
    u.attributes.groupName.toList, u.attributes.major.bytes, u.attributes.minor.bytes,
    padded 155 [], padded 12 []]

def front : List UInt8 := u.frontFields.flatten

def back : List UInt8 := u.backFields.flatten

/-- The sum of all bytes, with blanks in the place of the checksum. -/
def checksum : Nat := ((u.front ++ List.replicate 8 32 ++ u.back).map UInt8.toNat).sum

end Unsummed

/-- A member as it is written, with its checksum. -/
structure Item extends Unsummed where
  sum : Numeral 8
  summed : sum.value = toUnsummed.checksum

def Item.header (i : Item) : List UInt8 := i.front ++ (i.sum.bytes ++ i.back)

variable {first last : Nat} {part rest : List UInt8}

theorem slice_append_left (inside : last ≤ part.length) :
    slice first last (part ++ rest) = slice first last part := by
  have none : last - first - (part.drop first).length = 0 := by
    rw [List.length_drop]
    omega
  rw [slice, slice, List.drop_append, List.take_append, none, List.take_zero, List.append_nil]

theorem slice_append_right (outside : part.length ≤ first) :
    slice first last (part ++ rest) = slice (first - part.length) (last - part.length) rest := by
  have span : last - first = last - part.length - (first - part.length) := by omega
  rw [slice, slice, List.drop_append, List.drop_eq_nil_of_le outside, List.nil_append, span]

theorem slice_whole (whole : part.length = last) : slice 0 last part = part := by
  rw [slice, List.drop_zero, Nat.sub_zero, ← whole, List.take_length]

/-- A field is found behind the fields before it. -/
theorem slice_flatten {before after : List (List UInt8)} {field : List UInt8}
    (begins : before.flatten.length = first) (ends : first + field.length = last) :
    slice first last (before ++ field :: after).flatten = field := by
  rw [List.flatten_append, List.flatten_cons, slice_append_right (Nat.le_of_eq begins), begins,
    Nat.sub_self, slice_append_left (by omega), slice_whole (by omega)]

theorem Content.type_toUInt8 (content : Content) :
    content.type.toUInt8 ≠ 0 ∧ Char.ofNat content.type.toUInt8.toNat = content.type ∧
      content.type ≠ '\x00' := by
  cases content <;> (rw [type]; decide)

@[simp] theorem Content.length_target (content : Content) : content.target.length = 100 := by
  cases content <;> simp [target]

@[simp] theorem length_magic : magic.length = 8 := rfl

namespace Unsummed

variable (u : Unsummed)

@[simp] theorem length_front : u.front.length = 148 := by
  simp [front, frontFields, u.name.fits]

@[simp] theorem length_back : u.back.length = 356 := by
  simp [back, backFields]

theorem sum_toNat_le (bytes : List UInt8) : (bytes.map UInt8.toNat).sum ≤ 255 * bytes.length := by
  induction bytes with
  | nil => simp
  | cons b bytes ih =>
    have small := b.toNat_lt
    rw [List.map_cons, List.sum_cons, List.length_cons]
    omega

theorem checksum_lt : u.checksum < 8 ^ 6 := by
  have bound := sum_toNat_le (u.front ++ List.replicate 8 32 ++ u.back)
  have length : (u.front ++ List.replicate 8 32 ++ u.back).length = 512 := by simp
  rw [length] at bound
  exact Nat.lt_of_le_of_lt bound (by decide)

/-- Every header has room for its checksum: in six digits, a zero byte and a blank. -/
def item : Item where
  toUnsummed := u
  sum := ⟨u.checksum, 6, [0, 32], u.checksum_lt, by simp, rfl⟩
  summed := rfl

end Unsummed

namespace Item

variable (i : Item)

@[simp] theorem length_header : i.header.length = blockSize := by
  simp [header, blockSize]

theorem slice_header_front (inside : last ≤ 148) :
    slice first last i.header = slice first last i.front := by
  rw [header, slice_append_left (by rwa [Unsummed.length_front])]

theorem slice_header_back (outside : 156 ≤ first) :
    slice first last i.header = slice (first - 156) (last - 156) i.back := by
  have before : (i.front ++ i.sum.bytes).length = 156 := by simp
  rw [header, ← List.append_assoc, slice_append_right (by rwa [before]), before]

theorem slice_checksum : slice 148 156 i.header = i.sum.bytes := by
  rw [header, slice_append_right (Nat.le_of_eq i.length_front), slice_append_left (by simp),
    Unsummed.length_front, slice_whole (by simp)]

/-- A field in front of the checksum. -/
theorem slice_front {field : List UInt8} (before : List (List UInt8)) {after : List (List UInt8)}
    (fields : i.frontFields = before ++ field :: after) (begins : before.flatten.length = first)
    (ends : first + field.length = last) : slice first last i.header = field := by
  have inside : last ≤ 148 := by
    rw [← i.length_front, Unsummed.front, fields, List.flatten_append, List.flatten_cons]
    simp only [List.length_append]
    omega
  rw [slice_header_front i inside, Unsummed.front, fields]
  exact slice_flatten begins ends

/-- A field behind the checksum. -/
theorem slice_back {field : List UInt8} (before : List (List UInt8)) {after : List (List UInt8)}
    (fields : i.backFields = before ++ field :: after)
    (begins : 156 + before.flatten.length = first) (ends : first + field.length = last) :
    slice first last i.header = field := by
  rw [slice_header_back i (by omega), Unsummed.back, fields]
  exact slice_flatten (by omega) (by omega)

theorem slice_name : slice 0 100 i.header = padded 100 (Text.Utf8.encode i.name.text.toList) :=
  i.slice_front [] rfl rfl (by simp [i.name.fits])

theorem slice_size : slice 124 136 i.header = i.size.bytes :=
  i.slice_front [_, _, _, _] rfl (by simp [i.name.fits]) (by simp)

theorem slice_prefix : slice 345 500 i.header = padded 155 [] :=
  i.slice_back [_, _, _, _, _, _, _] rfl (by simp) (by simp)

theorem getD_type : i.header.getD 156 0 = i.content.type.toUInt8 := by
  have before : (i.front ++ i.sum.bytes).length = 156 := by simp
  have own : i.back = i.content.type.toUInt8 :: (i.backFields.drop 1).flatten := rfl
  rw [header, ← List.append_assoc, own, List.getD_eq_getElem?_getD,
    List.getElem?_append_right (Nat.le_of_eq before), before]
  rfl

theorem exists_number_of_slice {size : Nat} {n : Numeral size}
    (read : slice first last i.header = n.bytes) :
    ∃ value : Int, number? (slice first last i.header) = some value :=
  ⟨n.value, by rw [read, n.number?_bytes]⟩

/-- The number fields besides the checksum hold numbers. -/
theorem exists_number {f : Nat × Nat} (mem : f ∈ numberFields) :
    ∃ value : Int, number? (slice f.1 f.2 i.header) = some value := by
  have fits := i.name.fits
  simp only [numberFields, List.mem_cons, List.not_mem_nil, or_false] at mem
  rcases mem with rfl | rfl | rfl | rfl | rfl | rfl | rfl <;> apply exists_number_of_slice
  · exact i.slice_front [_] rfl (by simp [fits]) (by simp)
  · exact i.slice_front [_, _] rfl (by simp [fits]) (by simp)
  · exact i.slice_front [_, _, _] rfl (by simp [fits]) (by simp)
  · exact i.slice_front [_, _, _, _] rfl (by simp [fits]) (by simp)
  · exact i.slice_front [_, _, _, _, _] rfl (by simp [fits]) (by simp)
  · exact i.slice_back [_, _, _, _, _] rfl (by simp) (by simp)
  · exact i.slice_back [_, _, _, _, _, _] rfl (by simp) (by simp)

theorem covered_header : covered i.header = i.front ++ i.back := by
  rw [covered, slice_header_front i (Nat.le_refl 148), slice_header_back i (Nat.le_refl 156),
    slice_whole i.length_front, slice_whole i.length_back]

theorem foldl_add_toNat (bytes : List UInt8) (start : Int) :
    bytes.foldl (fun (n : Int) b => n + b.toNat) start =
      start + ((bytes.map UInt8.toNat).sum : Nat) := by
  induction bytes generalizing start with
  | nil => simp
  | cons b bytes ih =>
    rw [List.foldl_cons, ih, List.map_cons, List.sum_cons]
    omega

theorem unsignedSum_header : unsignedSum i.header = (i.sum.value : Int) := by
  rw [unsignedSum, covered_header, foldl_add_toNat, i.summed, Unsummed.checksum]
  simp
  omega

theorem fullName_header (type : Char) (name : String) : fullName i.header type name = name := by
  have none : Field.text (slice 345 500 i.header) = "" := by
    rw [i.slice_prefix]
    exact @text_padded [] 155 (by simp)
  rw [fullName, none]
  rfl

end Item

/-- A header is read as it is written. -/
theorem Header.ofBlock_header (i : Item) :
    Header.ofBlock i.header = .ok ⟨i.name.text, i.content.type, i.content.data.length⟩ := by
  have long : 156 < i.header.length := by simp [blockSize]
  have kind := i.content.type_toUInt8
  have some : ¬ i.header.isEmpty = true := by
    rw [List.isEmpty_iff_length_eq_zero]
    omega
  have full : ¬ i.header.all (· = 0) = true := by
    intro zeros
    rw [List.all_eq_true] at zeros
    apply kind.1
    rw [← i.getD_type, List.getD_eq_getElem?_getD, List.getElem?_eq_getElem long]
    exact of_decide_eq_true (zeros _ (List.getElem_mem long))
  have sum : number? (slice 148 156 i.header) = Option.some (i.sum.value : Int) := by
    rw [i.slice_checksum, i.sum.number?_bytes]
  have numbers :
      ¬ (numberFields.any fun f => (number? (slice f.1 f.2 i.header)).isNone) = true := by
    rw [Bool.not_eq_true, List.any_eq_false]
    intro f mem
    obtain ⟨n, read⟩ := i.exists_number mem
    simp [read]
  have size : number? (slice 124 136 i.header) = Option.some (i.content.data.length : Int) := by
    rw [i.slice_size, i.size.number?_bytes, i.counted]
  have name : Field.text (slice 0 100 i.header) = i.name.text := by
    rw [i.slice_name, text_padded i.name.whole, String.ofList_toList]
  -- The checks are passed in their order: room, zeros, checksum, number fields.
  unfold Header.ofBlock
  rw [if_neg some, if_neg (by simp), if_neg full, sum]
  dsimp only
  rw [if_neg (by simp [i.unsignedSum_header]), if_neg numbers, name, size, i.getD_type, kind.2.1,
    i.fullName_header, actualType, if_neg (by simp [kind.2.2])]
  rfl

end AmbientTypes.Archive.Tar
