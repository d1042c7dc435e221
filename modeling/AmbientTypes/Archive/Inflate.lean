import AmbientTypes.Archive.Code

namespace AmbientTypes.Archive.Inflate

inductive Fault where
  | truncated
  | blockType
  | storedLength
  | tooManySymbols
  | lengthCode
  | repeatedLength
  | missingEnd
  | literalCode
  | distanceCode
  | literalWord
  | distanceWord
  | farDistance
  deriving DecidableEq, Repr

def need {α : Type} (r : Option (α × Bits)) : Except Fault (α × Bits) :=
  r.elim (.error .truncated) .ok

abbrev Output := Array UInt8

/-- The shortest length of each length symbol, and the width of what is added to it. -/
def lengthTable : List (Nat × Nat) := [
  (3, 0), (4, 0), (5, 0), (6, 0), (7, 0), (8, 0), (9, 0), (10, 0), (11, 1), (13, 1), (15, 1),
  (17, 1), (19, 2), (23, 2), (27, 2), (31, 2), (35, 3), (43, 3), (51, 3), (59, 3), (67, 4),
  (83, 4), (99, 4), (115, 4), (131, 5), (163, 5), (195, 5), (227, 5), (258, 0)]

/-- The least distance of each distance symbol, and the width of what is added to it. -/
def distanceTable : List (Nat × Nat) := [
  (1, 0), (2, 0), (3, 0), (4, 0), (5, 1), (7, 1), (9, 2), (13, 2), (17, 3), (25, 3), (33, 4),
  (49, 4), (65, 5), (97, 5), (129, 6), (193, 6), (257, 7), (385, 7), (513, 8), (769, 8),
  (1025, 9), (1537, 9), (2049, 10), (3073, 10), (4097, 11), (6145, 11), (8193, 12), (12289, 12),
  (16385, 13), (24577, 13)]

def endSymbol : Nat := 256

/-- Repeats bytes from a distance back. -/
def copy (distance : Nat) : (length : Nat) → Output → Output
  | 0, out => out
  | length + 1, out => copy distance length (out.push (out[out.size - distance]?.getD 0))

def tableNumber (table : List (Nat × Nat)) (symbol : Option Nat) (fault : Fault) (s : Bits) :
    Except Fault (Nat × Bits) :=
  match symbol.bind (table[·]?) with
  | none => .error fault
  | some (base, width) => do
    let (extra, s) ← need (s.number? width)
    .ok (base + extra, s)

/-- Reads bytes and repetitions up to the end of a block; `fuel` bounds their number. -/
def symbols (literals distances : Code) :
    (fuel : Nat) → Output → Bits → Except Fault (Output × Bits)
  | 0, _, _ => .error .truncated
  | fuel + 1, out, s => do
    let (symbol, s) ← need (literals.read? s)
    match symbol with
    | none => .error .literalWord
    | some n =>
      if n < endSymbol then symbols literals distances fuel (out.push n.toUInt8) s
      else if n = endSymbol then .ok (out, s)
      else
        let (length, s) ← tableNumber lengthTable (some (n - 257)) .literalWord s
        let (symbol, s) ← need (distances.read? s)
        let (distance, s) ← tableNumber distanceTable symbol .distanceWord s
        if out.size < distance then .error .farDistance
        else symbols literals distances fuel (copy distance length out) s

def word16 (a b : UInt8) : Nat := a.toNat + 256 * b.toNat

def stored (out : Output) (s : Bits) : Except Fault (Output × Bits) := do
  let (header, s) ← need (s.bytes? 4)
  match header with
  | [a, b, c, d] =>
    let length := word16 a b
    if length + word16 c d ≠ 0xFFFF then .error .storedLength
    else
      let (bytes, s) ← need (s.bytes? length)
      .ok (out ++ bytes, s)
  | _ => .error .truncated

/-- The code of literals and lengths that needs no description. -/
def fixedLiterals : Code :=
  Code.ofLengths (List.replicate 144 8 ++ List.replicate 112 9 ++ List.replicate 24 7 ++
    List.replicate 8 8)

def fixedDistances : Code := Code.ofLengths (List.replicate 32 5)

/-- The order in which the lengths of the code of code lengths are given. -/
def lengthOrder : List Nat := [16, 17, 18, 0, 8, 7, 9, 6, 10, 5, 11, 4, 12, 3, 13, 2, 14, 1, 15]

def smallNumbers : (count : Nat) → Bits → Except Fault (List Nat × Bits)
  | 0, s => .ok ([], s)
  | count + 1, s => do
    let (n, s) ← need (s.number? 3)
    let (ns, s) ← smallNumbers count s
    .ok (n :: ns, s)

/-- The lengths of the code of code lengths, in the order of its symbols. -/
def orderedLengths (given : List Nat) : List Nat :=
  (List.range 19).map fun symbol =>
    ((lengthOrder.zip given).find? (·.1 = symbol)).elim 0 (·.2)

/-- The width of the count of a repetition of code lengths, and the least count. -/
def repetition : Nat → Nat × Nat
  | 16 => (2, 3)
  | 17 => (3, 3)
  | _ => (7, 11)

/-- Reads code lengths until `total` are there; `read` holds them, the last one first. -/
def codeLengths (code : Code) (total : Nat) :
    (fuel : Nat) → List Nat → Bits → Except Fault (List Nat × Bits)
  | 0, _, _ => .error .truncated
  | fuel + 1, read, s =>
    if total ≤ read.length then .ok (read.reverse, s)
    else do
      let (symbol, s) ← need (code.read? s)
      let n := symbol.getD 0
      if n < 16 then codeLengths code total fuel (n :: read) s
      else
        let (width, least) := repetition n
        let (extra, s) ← need (s.number? width)
        let count := least + extra
        match n, read with
        | 16, [] => .error .repeatedLength
        | _, _ =>
          if total < read.length + count then .error .repeatedLength
          else
            let value := if n = 16 then read.headD 0 else 0
            codeLengths code total fuel (List.replicate count value ++ read) s

def needCode (fault : Fault) (code : Option Code) : Except Fault Code :=
  code.elim (.error fault) .ok

def codes (s : Bits) : Except Fault ((Code × Code) × Bits) := do
  let (n, s) ← need (s.number? 14)
  let literalCount := n % 32 + 257
  let distanceCount := n / 32 % 32 + 1
  let lengthCount := n / 1024 + 4
  if 286 < literalCount || 30 < distanceCount then .error .tooManySymbols
  else
    let (given, s) ← smallNumbers lengthCount s
    let code ← needCode .lengthCode (Code.ofLengths? false (orderedLengths given))
    let total := literalCount + distanceCount
    let (lengths, s) ← codeLengths code total (total + 1) [] s
    if lengths[endSymbol]? = some 0 then .error .missingEnd
    else
      let literals ←
        needCode .literalCode (Code.ofLengths? true (lengths.take literalCount))
      let distances ←
        needCode .distanceCode (Code.ofLengths? true (lengths.drop literalCount))
      .ok ((literals, distances), s)

def block (type : Nat) (out : Output) (s : Bits) : Except Fault (Output × Bits) :=
  match type with
  | 0 => stored out s
  | 1 => symbols fixedLiterals fixedDistances (s.size + 1) out s
  | 2 => do
    let ((literals, distances), s) ← codes s
    symbols literals distances (s.size + 1) out s
  | _ => .error .blockType

/-- Reads blocks up to the one that is marked as the last; `fuel` bounds their number. -/
def blocks : (fuel : Nat) → Output → Bits → Except Fault (Output × Bits)
  | 0, _, _ => .error .truncated
  | fuel + 1, out, s => do
    let (header, s) ← need (s.number? 3)
    let (out, s) ← block (header / 2) out s
    if header % 2 = 1 then .ok (out, s) else blocks fuel out s

/-- Reads compressed data; the answer holds what follows, from the next whole byte on. -/
def inflate (bytes : List UInt8) : Except Fault (List UInt8 × List UInt8) := do
  let s := Bits.ofBytes bytes
  let (out, s) ← blocks (s.size + 1) #[] s
  .ok (out.toList, s.bytes)

/-- The wording of a fault; none where the data end too early. -/
def Fault.message? : Fault → Option String
  | truncated => none
  | blockType => some "invalid block type"
  | storedLength => some "invalid stored block lengths"
  | tooManySymbols => some "too many length or distance symbols"
  | lengthCode => some "invalid code lengths set"
  | repeatedLength => some "invalid bit length repeat"
  | missingEnd => some "invalid code -- missing end-of-block"
  | literalCode => some "invalid literal/lengths set"
  | distanceCode => some "invalid distances set"
  | literalWord => some "invalid literal/length code"
  | distanceWord => some "invalid distance code"
  | farDistance => some "invalid distance too far back"

end AmbientTypes.Archive.Inflate
