import AmbientTypes.Text.Digit
import AmbientTypes.Text.Utf8

namespace AmbientTypes.Url.Percent

def digit (n : Nat) : Char := if n < 10 then Char.ofNat (48 + n) else Char.ofNat (55 + n)

def escapeByte (b : UInt8) : List Char := ['%', digit (b.toNat / 16), digit (b.toNat % 16)]

def escape (c : Char) : List Char := (String.utf8EncodeChar c).flatMap escapeByte

def encode (keep : Char → Bool) (cs : List Char) : List Char :=
  cs.flatMap fun c => if keep c then [c] else escape c

/-- Characters that have no meaning of their own in an address. -/
def isUnreserved (c : Char) : Bool := c.isAlphanum || ['-', '_', '.', '~'].contains c

def segment (s : String) : String := String.ofList (encode isUnreserved s.toList)

def byte? (high low : Char) : Option UInt8 := do
  let high ← Text.hexValue? high
  let low ← Text.hexValue? low
  return (high * 16 + low).toUInt8

/-- The bytes of an encoded text; a percent sign without two digits stands for itself. -/
def bytes : List Char → List UInt8
  | '%' :: high :: low :: rest =>
    match byte? high low with
    | some b => b :: bytes rest
    | none => 37 :: bytes (high :: low :: rest)
  | c :: rest => String.utf8EncodeChar c ++ bytes rest
  | [] => []

def decode (cs : List Char) : List Char := Text.Utf8.decodeLossy (bytes cs)

end AmbientTypes.Url.Percent
