import AmbientTypes.Archive.Checksum
import AmbientTypes.Archive.Inflate

namespace AmbientTypes.Archive.Container

inductive Fault where
  | data (fault : Inflate.Fault)
  | header
  | method
  | window
  | flags
  | headerChecksum
  | dictionary
  | checksum
  | length
  deriving DecidableEq, Repr

def truncated : Fault := .data .truncated

def advance (count : Nat) (bytes : List UInt8) : Except Fault (List UInt8) :=
  if count ≤ bytes.length then .ok (bytes.drop count) else .error truncated

def split (count : Nat) (bytes : List UInt8) : Except Fault (List UInt8 × List UInt8) :=
  if count ≤ bytes.length then .ok (bytes.take count, bytes.drop count) else .error truncated

def dropText (bytes : List UInt8) : Except Fault (List UInt8) :=
  match bytes.dropWhile (· ≠ 0) with
  | [] => .error truncated
  | _ :: rest => .ok rest

def body (bytes : List UInt8) : Except Fault (List UInt8 × List UInt8) :=
  (Inflate.inflate bytes).mapError .data

def hasFlag (flags : UInt8) (flag : UInt8) : Bool := flags &&& flag ≠ 0

def optionalPart (there : Bool) (drop : List UInt8 → Except Fault (List UInt8))
    (bytes : List UInt8) : Except Fault (List UInt8) :=
  if there then drop bytes else .ok bytes

/-- Drops a part behind its length in two bytes. -/
def dropSized (bytes : List UInt8) : Except Fault (List UInt8) := do
  let (size, rest) ← split 2 bytes
  advance (littleEndian size) rest

/-- Drops the checksum of the header, which is `whole` up to here. -/
def dropHeaderChecksum (whole bytes : List UInt8) : Except Fault (List UInt8) := do
  let (sum, rest) ← split 2 bytes
  if littleEndian sum = (crc32 (whole.take (whole.length - bytes.length))).toNat % 65536 then
    .ok rest
  else .error .headerChecksum

def afterGzipHeader (whole : List UInt8) : Except Fault (List UInt8) := do
  let (start, rest) ← split 4 whole
  let method := start.getD 2 0
  let flags := start.getD 3 0
  if method ≠ 8 then .error .method
  else if hasFlag flags 0xE0 then .error .flags
  else
    let rest ← advance 6 rest
    let rest ← optionalPart (hasFlag flags 4) dropSized rest
    let rest ← optionalPart (hasFlag flags 8) dropText rest
    let rest ← optionalPart (hasFlag flags 16) dropText rest
    optionalPart (hasFlag flags 2) (dropHeaderChecksum whole) rest

def gzip (whole : List UInt8) : Except Fault (List UInt8) := do
  let rest ← afterGzipHeader whole
  let (out, rest) ← body rest
  let (sum, rest) ← split 4 rest
  if littleEndian sum ≠ (crc32 out).toNat then .error .checksum
  else
    let (size, _) ← split 4 rest
    if littleEndian size ≠ out.length % Nat.pow 2 32 then .error .length else .ok out

/-- Reads a zlib container from behind its two bytes of header. -/
def zlib (a b : UInt8) (rest : List UInt8) : Except Fault (List UInt8) :=
  if (a.toNat * 256 + b.toNat) % 31 ≠ 0 then .error .header
  else if a &&& 15 ≠ 8 then .error .method
  else if 7 < a.toNat / 16 then .error .window
  else if hasFlag b 32 then do
    let _ ← advance 4 rest
    .error .dictionary
  else do
    let (out, rest) ← body rest
    let (sum, _) ← split 4 rest
    if bigEndian sum ≠ (adler32 out).toNat then .error .checksum else .ok out

/-- Reads a container of either kind; what follows it is of no matter. -/
def decompress (bytes : List UInt8) : Except Fault (List UInt8) :=
  match bytes with
  | a :: b :: rest => if a = 0x1F && b = 0x8B then gzip bytes else zlib a b rest
  | _ => .error truncated

namespace Fault

def detail : Fault → Option String
  | data fault => fault.message?
  | header => some "incorrect header check"
  | method => some "unknown compression method"
  | window => some "invalid window size"
  | flags => some "unknown header flags set"
  | headerChecksum => some "header crc mismatch"
  | dictionary => none
  | checksum => some "incorrect data check"
  | length => some "incorrect length check"

def message (f : Fault) : String :=
  match f.detail, f with
  | some text, _ => "Error -3 while decompressing data: " ++ text
  | none, dictionary => "Error 2 while decompressing data"
  | none, _ => "Error -5 while decompressing data: incomplete or truncated stream"

end Fault

end AmbientTypes.Archive.Container
