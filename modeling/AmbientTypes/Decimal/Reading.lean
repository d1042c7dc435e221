import AmbientTypes.Decimal.Number
import AmbientTypes.Text.Affix

namespace AmbientTypes.Decimal

def cutSign : List Char → Bool × List Char
  | '-' :: rest => (true, rest)
  | '+' :: rest => (false, rest)
  | cs => (false, cs)

def exponent? (cs : List Char) : Option Int :=
  let (negative, digits) := cutSign cs
  if digits.isEmpty || !digits.all Char.isDigit then none
  else some (if negative then -(valueOf digits : Int) else valueOf digits)

def marksExponent (c : Char) : Bool := c = 'e' || c = 'E'

/-- A number with digits and without a sign. -/
def unsigned? (cs : List Char) : Option Float :=
  let (whole, fraction) := Text.cut '.' (cs.takeWhile (!marksExponent ·))
  let fraction := fraction.getD []
  let digits := whole ++ fraction
  let exponent := match cs.dropWhile (!marksExponent ·) with
    | [] => some 0
    | _ :: rest => exponent? rest
  if digits.isEmpty || !digits.all Char.isDigit then none
  else exponent.map fun e => nearest (valueOf digits) (e - fraction.length)

def named? (name : String) : Option Float :=
  if name = "inf" || name = "infinity" then some (1.0 / 0.0)
  else if name = "nan" then some (0.0 / 0.0)
  else none

/-- The floating number of a text in ASCII without blanks and underscores. -/
def float? (cs : List Char) : Option Float :=
  let (negative, rest) := cutSign cs
  let size := (named? (String.ofList (rest.map Char.toLower))).or (unsigned? rest)
  size.map fun x => if negative then -x else x

def asciiDigit (c : Char) : Char :=
  match Text.digit? c with
  | some d => Char.ofNat (48 + d)
  | none => c

/-- A text without the underscores that stand between two digits. -/
def joinDigits : List Char → List Char
  | a :: '_' :: b :: rest =>
    if a.isDigit && b.isDigit then a :: joinDigits (b :: rest)
    else a :: '_' :: joinDigits (b :: rest)
  | c :: rest => c :: joinDigits rest
  | [] => []

/-- The floating number of a text: blanks around it, digits of any script, and single underscores
between them. -/
def readFloat (cs : List Char) : Option Float :=
  float? (joinDigits ((Text.trimWhile Text.isBlank cs).map asciiDigit))

end AmbientTypes.Decimal
