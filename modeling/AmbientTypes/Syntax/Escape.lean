import AmbientTypes.Syntax.Token
import AmbientTypes.Text.CodePoint
import AmbientTypes.Text.Digit

namespace AmbientTypes.Syntax

def digitsValue (base : Nat) (digits : List Char) : Nat :=
  digits.foldl (fun n c => n * base + (Text.hexValue? c).getD 0) 0

def maxBraced : Nat := 0x7FFFFFFF

def letterEscape? : Char → Option (List Nat)
  | 'n' => some [0x0A]
  | 'r' => some [0x0D]
  | 't' => some [0x09]
  | 'b' => some [0x08]
  | 'f' => some [0x0C]
  | 'v' => some [0x0B]
  | 'a' => some [0x07]
  | '\\' => some [0x5C]
  | '\'' => some [0x27]
  | '"' => some [0x22]
  | '\n' => some []
  | 'N' => some [0x4E]
  | 'U' => some [0x55]
  | _ => none

def bytePoints (c : Char) : List Nat := (String.utf8EncodeChar c).map UInt8.toNat

/-- The code points of an escape; none if it spells too large a number. Braces that spell no code
point stand for themselves. -/
def escapePoints? : List Char → Option (List Nat)
  | 'u' :: '\x7b' :: cs =>
    let digits := cs.takeWhile isHex
    let n := digitsValue 16 digits
    if n ≤ 0x10FFFF then some [n]
    else if n ≤ maxBraced then some (('u' :: '\x7b' :: digits ++ ['\x7d']).map Char.toNat)
    else none
  | 'u' :: cs => some [digitsValue 16 cs]
  | 'x' :: cs => some [digitsValue 16 cs]
  | c :: cs =>
    if isOctal c then some [digitsValue 8 (c :: cs)]
    else match cs, letterEscape? c with
      | [], some points => some points
      | _, _ => some (0x5C :: (c :: cs).flatMap bytePoints)
  | [] => some [0x5C]

def Part.points? : Part → Option (List Nat)
  | fragment text => some (text.map Char.toNat)
  | escape sequence => escapePoints? sequence

/-- The value of a string literal; none if an escape spells too large a number. Each escape is read
on its own, so those of two halves of a character stay two code points. -/
def literalValue? (parts : List Part) : Option Text.Points :=
  (parts.mapM Part.points?).map List.flatten

end AmbientTypes.Syntax
