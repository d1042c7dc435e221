import AmbientTypes.Archive.Checksum
import AmbientTypes.Text.Blank
import AmbientTypes.Text.Utf8

namespace AmbientTypes.Archive.Field

/-- The bytes of a field up to the first zero byte. -/
def used (bytes : List UInt8) : List UInt8 := bytes.takeWhile (· ≠ 0)

/-- Every sequence that is not UTF-8 becomes a replacement character, so names that differ only in
such sequences are one name here. -/
def text (bytes : List UInt8) : String := String.ofList (Text.Utf8.decodeLossy (used bytes))

/-- Octal digits, single underscores between them. -/
def octalDigits (value : Nat) (afterDigit : Bool) : List Char → Option Nat
  | [] => if afterDigit then some value else none
  | c :: cs =>
    if '0' ≤ c && c ≤ '7' then octalDigits (value * 8 + (c.toNat - 48)) true cs
    else if c = '_' && afterDigit then octalDigits value false cs
    else none

/-- Octal digits that may have the mark of octal numbers in front. -/
def markedDigits : List Char → Option Nat
  | '0' :: c :: '_' :: cs =>
    if c = 'o' || c = 'O' then octalDigits 0 false cs
    else octalDigits 0 false ('0' :: c :: '_' :: cs)
  | '0' :: c :: cs =>
    if c = 'o' || c = 'O' then octalDigits 0 false cs else octalDigits 0 false ('0' :: c :: cs)
  | cs => octalDigits 0 false cs

/-- An octal number with a sign and blanks around it; nothing at all is zero. -/
def octal? (bytes : List UInt8) : Option Int :=
  match Text.trimWhile Text.isBlank (bytes.map fun b => Char.ofNat b.toNat) with
  | [] => some 0
  | '-' :: cs => (markedDigits cs).map fun n => -(n : Int)
  | '+' :: cs => (markedDigits cs).map (↑·)
  | cs => (markedDigits cs).map (↑·)

/-- The value of a number field. A first byte of 128 or 255 marks a number in bytes, a negative one
in the second case. -/
def number? (bytes : List UInt8) : Option Int :=
  match bytes with
  | [] => some 0
  | b :: rest =>
    if b = 0x80 then some (bigEndian rest)
    else if b = 0xFF then some ((bigEndian rest : Int) - Nat.pow 256 rest.length)
    else
      let digits := used bytes
      if digits.all (· < 128) then octal? digits else none

end AmbientTypes.Archive.Field
