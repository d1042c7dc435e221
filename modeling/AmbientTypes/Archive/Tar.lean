import AmbientTypes.Archive.Field
import AmbientTypes.Archive.File
import AmbientTypes.Decimal.Number

namespace AmbientTypes.Archive.Tar

def blockSize : Nat := 512

inductive HeaderFault where
  | empty
  | truncated
  | zeros
  | checksum
  | invalid
  /-- The header behind a describing member has a fault. -/
  | behind (text : String)
  deriving DecidableEq, Repr

namespace HeaderFault

def message : HeaderFault → String
  | empty => "empty header"
  | truncated => "truncated header"
  | zeros => "end of file header"
  | checksum => "bad checksum"
  | invalid => "invalid header"
  | behind text => text

end HeaderFault

inductive Fault where
  | noHeader (fault : HeaderFault)
  | noData
  deriving DecidableEq, Repr

namespace Fault

def message : Fault → String
  | noHeader .empty => "empty file"
  | noHeader fault => fault.message
  | noData => "unexpected end of data"

end Fault

def slice (first last : Nat) (bytes : List UInt8) : List UInt8 :=
  (bytes.drop first).take (last - first)

/-- The bytes of a header that its checksum covers; its own field counts as blanks. -/
def covered (block : List UInt8) : List UInt8 := slice 0 148 block ++ slice 156 512 block

def unsignedSum (block : List UInt8) : Int :=
  256 + (covered block).foldl (fun (n : Int) b => n + b.toNat) 0

/-- The checksum with bytes read as signed numbers. -/
def signedSum (block : List UInt8) : Int :=
  256 + (covered block).foldl (fun (n : Int) b => n + b.toInt8.toInt) 0

structure Header where
  name : String
  type : Char
  size : Int
  deriving DecidableEq, Repr

def regularTypes : List Char := ['0', '\x00', '7', 'S']

/-- Types with a meaning of their own. -/
def knownTypes : List Char := ['0', '\x00', '1', '2', '3', '4', '5', '6', '7', 'L', 'K', 'S']

/-- Types whose names have no second part. -/
def plainNameTypes : List Char := ['L', 'K', 'S']

namespace Header

def isFile (h : Header) : Bool := regularTypes.contains h.type

/-- Regular files and members of unknown types have data. -/
def hasData (h : Header) : Bool := h.isFile || !knownTypes.contains h.type

def paddedSize (h : Header) : Nat := (h.size.toNat + blockSize - 1) / blockSize * blockSize

def skip (h : Header) : Nat := if h.hasData then h.paddedSize else 0

end Header

/-- The places of the number fields besides the checksum. -/
def numberFields : List (Nat × Nat) :=
  [(100, 108), (108, 116), (116, 124), (124, 136), (136, 148), (329, 337), (337, 345)]

/-- The name in a header: the second part, if there is one, stands in front. -/
def fullName (block : List UInt8) (type : Char) (name : String) : String :=
  let front := Field.text (slice 345 500 block)
  if front.isEmpty || plainNameTypes.contains type then name else front ++ "/" ++ name

/-- A file of the oldest type whose name ends with a slash is a directory. -/
def actualType (type : Char) (name : String) : Char :=
  if type = '\x00' && Text.endsWith "/" name then '5' else type

def Header.ofBlock (block : List UInt8) : Except HeaderFault Header :=
  if block.isEmpty then .error .empty
  else if block.length < blockSize then .error .truncated
  else if block.all (· = 0) then .error .zeros
  else
    match Field.number? (slice 148 156 block) with
    | none => .error .invalid
    | some sum =>
      if sum ≠ unsignedSum block && sum ≠ signedSum block then .error .checksum
      else if numberFields.any fun f => (Field.number? (slice f.1 f.2 block)).isNone then
        .error .invalid
      else
        let name := Field.text (slice 0 100 block)
        let type := actualType (Char.ofNat (block.getD 156 0).toNat) name
        let size := (Field.number? (slice 124 136 block)).getD 0
        .ok ⟨fullName block type name, type, size⟩

/-- Descriptions of members by keywords, a later one in place of an earlier one. -/
abbrev Records := List (String × String)

def Records.get? (records : Records) (keyword : String) : Option String :=
  (records.find? (·.1 = keyword)).map (·.2)

def Records.add (new old : Records) : Records := new.reverse ++ old

/-- The digits of a length, at most twenty, and what follows the blank behind them. -/
def recordLength? (bytes : List UInt8) : Option (List UInt8) :=
  let digits := (bytes.take 20).takeWhile fun b => 48 ≤ b && b ≤ 57
  if digits.isEmpty || (bytes.drop digits.length).head? ≠ some 32 then none else some digits

def minRecord : Nat := 5

def decimal (digits : List UInt8) : Nat := digits.foldl (fun n b => n * 10 + (b.toNat - 48)) 0

/-- Every sequence that is not UTF-8 becomes a replacement character, as it does in the fields of a
header. -/
def textOf (bytes : List UInt8) : String := String.ofList (Text.Utf8.decodeLossy bytes)

/-- Reads records `length keyword=value`, each closed by a line feed, up to the end of the bytes or
to a zero byte. -/
def readRecords : (fuel : Nat) → List UInt8 → Except HeaderFault Records
  | 0, _ => .ok []
  | _ + 1, [] => .ok []
  | fuel + 1, b :: rest =>
    let bytes := b :: rest
    if b = 0 then .ok []
    else match recordLength? bytes with
      | none => .error .invalid
      | some digits =>
        let length := decimal digits
        if length < minRecord || bytes.length < length then .error .invalid
        else
          let body := slice (digits.length + 1) (length - 1) bytes
          let keyword := body.takeWhile (· ≠ 61)
          let value := body.drop (keyword.length + 1)
          if keyword.isEmpty || keyword.length = body.length ||
              bytes.getD (length - 1) 0 ≠ 10 then .error .invalid
          else do
            let more ← readRecords fuel (bytes.drop length)
            .ok ((textOf keyword, textOf value) :: more)

/-- A size in a record; a text that is no number counts as zero. -/
def recordSize (value : String) : Int := (Decimal.readInt value.toList).getD 0

def Header.describe (h : Header) (records : Records) : Header :=
  { h with
    name := ((records.get? "path").map Text.stripSlashes).getD h.name
    size := ((records.get? "size").map recordSize).getD h.size }

/-- A member: its header, how far it reaches, and all bytes from the beginning of its data. -/
structure Member where
  header : Header
  skip : Nat
  rest : List UInt8

/-- Reads a member with the members that describe it. `common` holds the records for all members to
come, and `fuel` bounds the number of describing members. -/
def readMember : (fuel : Nat) → (common : Records) → List UInt8 →
    Except HeaderFault (Member × Records)
  | 0, _, _ => .error .empty
  | fuel + 1, common, bytes => do
    let header ← Header.ofBlock (bytes.take blockSize)
    let rest := bytes.drop blockSize
    let data := rest.take header.paddedSize
    let next (common : Records) : Except HeaderFault (Member × Records) :=
      (readMember fuel common (rest.drop header.paddedSize)).mapError fun e => .behind e.message
    match header.type with
    | 'L' => do
      let (member, common) ← next common
      .ok ({ member with header := { member.header with name := Field.text data } }, common)
    | 'K' => next common
    | 'g' => do
      let records ← readRecords data.length data
      next (Records.add records common)
    | _ =>
      if header.type = 'x' || header.type = 'X' then do
        let records ← readRecords data.length data
        let all := Records.add records common
        let (member, common) ← next common
        let described := member.header.describe all
        let skip := if (all.get? "size").isSome then described.skip else member.skip
        .ok ({ member with header := described, skip := skip }, common)
      else .ok (⟨header.describe common, header.skip, rest⟩, common)

def Member.file? (m : Member) : Option ArchiveFile :=
  if m.header.isFile then some ⟨m.header.name, m.rest.take m.header.size.toNat⟩ else none

/-- Reads members up to a header that is none; `fuel` bounds their number. -/
def readFiles : (fuel : Nat) → (first : Bool) → Records → List UInt8 →
    Except Fault (List ArchiveFile)
  | 0, _, _, _ => .ok []
  | fuel + 1, first, common, bytes =>
    match readMember (bytes.length / blockSize + 1) common bytes with
    | .error .zeros => .ok []
    | .error (.behind text) => .error (.noHeader (.behind text))
    | .error e => if first then .error (.noHeader e) else .ok []
    | .ok (member, common) =>
      if member.rest.length < member.skip then .error .noData
      else do
        let files ← readFiles fuel false common (member.rest.drop member.skip)
        .ok (member.file?.toList ++ files)

def files (bytes : List UInt8) : Except Fault (List ArchiveFile) :=
  readFiles (bytes.length / blockSize + 1) true [] bytes

end AmbientTypes.Archive.Tar
