import AmbientTypes.Proofs.Archive.Header

namespace AmbientTypes.Archive.Tar

/-- What fills up data to whole blocks. -/
def padding (size : Nat) : List UInt8 :=
  List.replicate ((blockSize - size % blockSize) % blockSize) 0

/-- The two blocks that close an archive. -/
def closing : List UInt8 := List.replicate (2 * blockSize) 0

namespace Item

def bytes (i : Item) : List UInt8 :=
  i.header ++ (i.content.data ++ padding i.content.data.length)

/-- The file that a member stands for. -/
def file? (i : Item) : Option ArchiveFile :=
  match i.content with
  | .file data => some ⟨i.name.text, data⟩
  | .directory | .link _ => none

end Item

def stream (items : List Item) : List UInt8 := items.flatMap Item.bytes ++ closing

variable {fuel : Nat} {rest : List UInt8}

/-- A written header is read as a member of its own. -/
theorem readMember_header (i : Item) (fuel : Nat) (rest : List UInt8) :
    readMember (fuel + 1) [] (i.header ++ rest) =
      let header : Header := ⟨i.name.text, i.content.type, i.content.data.length⟩
      .ok (⟨header, header.skip, rest⟩, []) := by
  have first : (i.header ++ rest).take blockSize = i.header := List.take_left' i.length_header
  have later : (i.header ++ rest).drop blockSize = rest := List.drop_left' i.length_header
  rw [readMember, first, later, Header.ofBlock_header]
  cases i.content <;> rfl

theorem readMember_closing (fuel : Nat) (common : Records) :
    readMember (fuel + 1) common closing = .error .zeros := by
  have first : closing.take blockSize = List.replicate blockSize 0 := by
    rw [closing, List.take_replicate]
    rfl
  have zeros : Header.ofBlock (List.replicate blockSize 0) = .error .zeros := by
    unfold Header.ofBlock
    rw [if_neg (by simp [blockSize]), if_neg (by simp), if_pos (by simp)]
  rw [readMember, first, zeros]
  rfl

theorem length_padding (size : Nat) :
    (padding size).length = (blockSize - size % blockSize) % blockSize := List.length_replicate

/-- What is skipped behind a header is what is written there. -/
theorem skip_eq_length (i : Item) :
    (Header.mk i.name.text i.content.type i.content.data.length).skip =
      (i.content.data ++ padding i.content.data.length).length := by
  rw [List.length_append, length_padding]
  cases i.content with
  | file data =>
    change (data.length + 512 - 1) / 512 * 512 =
      data.length + (512 - data.length % 512) % 512
    omega
  | directory => rfl
  | link target =>
    change 0 = 0 + (blockSize - 0 % blockSize) % blockSize
    rfl

theorem file?_eq (i : Item) (skip : Nat) (rest : List UInt8) :
    Member.file? ⟨⟨i.name.text, i.content.type, i.content.data.length⟩, skip,
      i.content.data ++ rest⟩ = i.file? := by
  unfold Item.file?
  cases i.content with
  | file data =>
    have taken : (data ++ rest).take data.length = data := List.take_left
    exact congrArg (fun bytes => some (ArchiveFile.mk i.name.text bytes)) taken
  | directory => rfl
  | link target => rfl

/-- A written member is read, and reading goes on behind it. -/
theorem readFiles_item (i : Item) (fuel : Nat) (first : Bool) (rest : List UInt8) :
    readFiles (fuel + 1) first [] (i.bytes ++ rest) =
      (readFiles fuel false [] rest).map (i.file?.toList ++ ·) := by
  have whole : i.bytes ++ rest =
      i.header ++ (i.content.data ++ (padding i.content.data.length ++ rest)) := by
    simp only [Item.bytes, List.append_assoc]
  rw [whole, readFiles, readMember_header]
  dsimp only
  rw [file?_eq, skip_eq_length, ← List.append_assoc, if_neg (by simp), List.drop_left]
  cases readFiles fuel false [] rest <;> rfl

theorem readFiles_closing (fuel : Nat) (first : Bool) :
    readFiles fuel first [] closing = .ok [] := by
  cases fuel with
  | zero => rfl
  | succ fuel => rw [readFiles, readMember_closing]

theorem readFiles_stream (items : List Item) {fuel : Nat} (enough : items.length ≤ fuel)
    (first : Bool) : readFiles fuel first [] (stream items) = .ok (items.filterMap Item.file?) := by
  induction items generalizing fuel first with
  | nil => exact readFiles_closing fuel first
  | cons i items ih =>
    obtain ⟨fuel, rfl⟩ := Nat.exists_eq_add_of_lt (Nat.lt_of_lt_of_le items.length.succ_pos enough)
    rw [Nat.zero_add] at enough ⊢
    have whole : stream (i :: items) = i.bytes ++ stream items := by
      simp only [stream, List.flatMap_cons, List.append_assoc]
    rw [whole, readFiles_item, ih (Nat.le_of_succ_le_succ enough), List.filterMap_cons]
    cases i.file? <;> rfl

theorem length_le_stream (items : List Item) :
    items.length ≤ (stream items).length / blockSize := by
  have long : ∀ i ∈ items, blockSize ≤ i.bytes.length := by
    intro i _
    rw [Item.bytes, List.length_append, i.length_header]
    omega
  have sum : items.length * blockSize ≤ (items.flatMap Item.bytes).length := by
    induction items with
    | nil => simp
    | cons i items ih =>
      have here := long i List.mem_cons_self
      have later := ih fun i mem => long i (List.mem_cons_of_mem _ mem)
      rw [List.flatMap_cons, List.length_append, List.length_cons, Nat.succ_mul]
      omega
  rw [Nat.le_div_iff_mul_le (by decide), stream, List.length_append]
  omega

/-- The regular files are read off an archive, in their order. -/
theorem files_stream (items : List Item) :
    files (stream items) = .ok (items.filterMap Item.file?) :=
  readFiles_stream items (Nat.le_succ_of_le (length_le_stream items)) true

end AmbientTypes.Archive.Tar
