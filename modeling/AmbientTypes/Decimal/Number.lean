import AmbientTypes.Decimal.Shortest
import AmbientTypes.Text.Blank
import AmbientTypes.Text.Digit

namespace AmbientTypes

inductive Number where
  | int (n : Int)
  | float (x : Float)
  deriving Inhabited

namespace Decimal

def zeros (n : Nat) : List Char := List.replicate n '0'

/-- An exponent with its sign and at least two digits. -/
def exponentText (e : Int) : List Char :=
  let digits := Nat.toDigits 10 e.natAbs
  (if e < 0 then '-' else '+') :: zeros (2 - digits.length) ++ digits

def Scaled.text (d : Scaled) : List Char :=
  let digits := Nat.toDigits 10 d.digits
  let leading : Int := digits.length - 1 + d.exponent
  if leading < -4 || 16 ≤ leading then
    let tail := if digits.length = 1 then [] else '.' :: digits.drop 1
    digits.take 1 ++ tail ++ 'e' :: exponentText leading
  else if leading < 0 then
    '0' :: '.' :: zeros (leading.natAbs - 1) ++ digits
  else
    let whole := leading.toNat + 1
    if digits.length ≤ whole then digits ++ zeros (whole - digits.length) ++ ['.', '0']
    else digits.take whole ++ '.' :: digits.drop whole

def floatText (x : Float) : String :=
  if x.isNaN then "nan"
  else if x.isInf then if 0 < x then "inf" else "-inf"
  else
    let sign := if x.toBits.toNat / Nat.pow 2 63 = 1 then ['-'] else []
    let size := Binary.ofFloat x.abs
    let text := if size.mantissa = 0 then ['0', '.', '0'] else size.shortest.text
    String.ofList (sign ++ text)

def valueOf (digits : List Char) : Nat :=
  digits.foldl (fun n c => n * 10 + (c.toNat - 48)) 0

/-- The floating number nearest to `digits * 10 ^ exponent`. -/
def nearest (digits : Nat) (exponent : Int) : Float :=
  let size := digitCount digits + exponent
  if digits = 0 || size < -400 then 0
  else if 400 < size then 1.0 / 0.0
  else Float.ofScientific digits (exponent < 0) exponent.natAbs

/-- Digits of any script in groups that are joined by single underscores. -/
def readGroups (value : Nat) (afterDigit : Bool) : List Char → Option Nat
  | [] => if afterDigit then some value else none
  | c :: cs =>
    match Text.digit? c with
    | some d => readGroups (value * 10 + d) true cs
    | none => if c = '_' && afterDigit then readGroups value false cs else none

/-- A whole number: blanks around it, a sign, digit groups. -/
def readInt (cs : List Char) : Option Int :=
  match Text.trimWhile Text.isBlank cs with
  | '-' :: digits => (readGroups 0 false digits).map fun n => -(n : Int)
  | '+' :: digits => (readGroups 0 false digits).map (↑·)
  | digits => (readGroups 0 false digits).map (↑·)

end Decimal

def Number.text : Number → String
  | .int n => toString n
  | .float x => Decimal.floatText x

end AmbientTypes
