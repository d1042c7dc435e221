import AmbientTypes.Archive.Bits

namespace AmbientTypes.Archive

/-- A prefix code: how many words there are of each length from one on, and the symbols in the order
of their words. Words of one length are consecutive numbers, and shorter words come first. -/
structure Code where
  counts : List Nat
  symbols : List Nat
  deriving DecidableEq, Repr

namespace Code

def maxLength : Nat := 15

/-- The words that are left at the greatest length, if the lengths do not ask for too many. -/
def unused? : (unused : Nat) → List Nat → Option Nat
  | unused, [] => some unused
  | unused, n :: ns => if n ≤ 2 * unused then unused? (2 * unused - n) ns else none

def symbolsOf (lengths : List Nat) (length : Nat) : List Nat :=
  (lengths.zipIdx.filter (·.1 = length)).map (·.2)

/-- The code of given lengths; length zero means that a symbol has no word. -/
def ofLengths (lengths : List Nat) : Code where
  counts := (List.range (max 1 (lengths.foldl max 0))).map fun i => lengths.count (i + 1)
  symbols := (List.range (lengths.foldl max 0)).flatMap fun i => symbolsOf lengths (i + 1)

/-- The code of given lengths, if it can be used: no word is missing, but a code without words is
admitted, and one with a single word of one bit where `single` allows it. -/
def ofLengths? (single : Bool) (lengths : List Nat) : Option Code :=
  let code := ofLengths lengths
  match unused? 1 code.counts with
  | none => none
  | some 0 => some code
  | some _ =>
    if code.symbols.isEmpty || (single && code.counts.length = 1) then some code else none

/-- Looks for a word: `word` is what has been read, `first` the first word of this length, and
`symbols` those that have words of this length or longer ones. A word of no symbol gives none. -/
def search (word first : Nat) (symbols : List Nat) : List Nat → Bits → Option (Option Nat × Bits)
  | [], s => some (none, s)
  | n :: ns, s => do
    let (b, s) ← s.bit?
    let word := 2 * word + b.toNat
    if word < 2 * first + n then some (symbols[word - 2 * first]?, s)
    else search word (2 * first + n) (symbols.drop n) ns s

def read? (c : Code) (s : Bits) : Option (Option Nat × Bits) := search 0 0 c.symbols c.counts s

end Code

end AmbientTypes.Archive
