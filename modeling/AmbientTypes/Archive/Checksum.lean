namespace AmbientTypes.Archive

def crcStep (r : UInt32) : UInt32 := if r &&& 1 = 1 then (r >>> 1) ^^^ 0xEDB88320 else r >>> 1

def crcByte (r : UInt32) (b : UInt8) : UInt32 := Nat.repeat crcStep 8 (r ^^^ b.toUInt32)

def crc32 (bytes : List UInt8) : UInt32 := bytes.foldl crcByte 0xFFFFFFFF ^^^ 0xFFFFFFFF

structure AdlerSums where
  low : Nat
  high : Nat
  deriving DecidableEq, Repr

def adlerModulus : Nat := 65521

def AdlerSums.add (s : AdlerSums) (b : UInt8) : AdlerSums :=
  let low := (s.low + b.toNat) % adlerModulus
  ⟨low, (s.high + low) % adlerModulus⟩

def adler32 (bytes : List UInt8) : UInt32 :=
  let s := bytes.foldl AdlerSums.add ⟨1, 0⟩
  (s.high * 65536 + s.low).toUInt32

def littleEndian : List UInt8 → Nat
  | [] => 0
  | b :: bs => b.toNat + 256 * littleEndian bs

def bigEndian (bytes : List UInt8) : Nat := bytes.foldl (fun n b => n * 256 + b.toNat) 0

end AmbientTypes.Archive
