import AmbientTypes.Decimal.Reading
import AmbientTypes.Json.Value

namespace AmbientTypes.Settings

inductive ValueFault where
  | notWhole
  | fraction
  | unreadableWhole
  | tooLong
  | infinite
  | below (least : Nat)
  | above (greatest : Nat)
  | notNumber
  | unreadableNumber
  | notPositive
  | notBoolean
  | unreadableBoolean
  | notObject
  deriving DecidableEq, Repr

namespace ValueFault

def code : ValueFault → String
  | notWhole => "int_type"
  | fraction => "int_from_float"
  | unreadableWhole => "int_parsing"
  | tooLong => "int_parsing_size"
  | infinite => "finite_number"
  | below _ => "greater_than_equal"
  | above _ => "less_than_equal"
  | notNumber => "float_type"
  | unreadableNumber => "float_parsing"
  | notPositive => "greater_than"
  | notBoolean => "bool_type"
  | unreadableBoolean => "bool_parsing"
  | notObject => "dict_type"

def message : ValueFault → String
  | notWhole => "Input should be a valid integer"
  | fraction => "Input should be a valid integer, got a number with a fractional part"
  | unreadableWhole =>
    "Input should be a valid integer, unable to parse string as an integer"
  | tooLong => "Unable to parse input string as an integer, exceeded maximum size"
  | infinite => "Input should be a finite number"
  | below least => s!"Input should be greater than or equal to {least}"
  | above greatest => s!"Input should be less than or equal to {greatest}"
  | notNumber => "Input should be a valid number"
  | unreadableNumber => "Input should be a valid number, unable to parse string as a number"
  | notPositive => "Input should be greater than 0"
  | notBoolean => "Input should be a valid boolean"
  | unreadableBoolean => "Input should be a valid boolean, unable to interpret input"
  | notObject => "Input should be a valid dictionary"

end ValueFault

def groupedDigits? (cs : List Char) : Option (List Char) :=
  let parts := Text.splitAt '_' cs
  if parts.all fun part => !part.isEmpty && part.all Char.isDigit then some parts.flatten else none

def isZeroFraction : Option (List Char) → Bool
  | none => true
  | some zeros => !zeros.isEmpty && zeros.all (· = '0')

def maxDigits : Nat := 4300

def wholeOfText (cs : List Char) : Except ValueFault Int :=
  let (negative, rest) := Decimal.cutSign (Text.trimWhile Text.isWhite cs)
  let (whole, fraction) := Text.cut '.' rest
  match groupedDigits? whole with
  | none => .error .unreadableWhole
  | some digits =>
    if !isZeroFraction fraction then .error .unreadableWhole
    else if maxDigits < digits.length then .error .tooLong
    else .ok (if negative then -(Decimal.valueOf digits : Int) else Decimal.valueOf digits)

/-- A text without single underscores inside it; nothing if it has no others or none. -/
def withoutUnderscores? (cs : List Char) : Option (List Char) :=
  let parts := Text.splitAt '_' cs
  if parts.length = 1 || parts.any List.isEmpty then none else some parts.flatten

/-- The number that a text spells: with blanks around it, or with underscores inside. -/
def numberOfText (cs : List Char) : Except ValueFault Float :=
  match (Decimal.float? (Text.trimWhile Text.isWhite cs)).or
    ((withoutUnderscores? cs).bind Decimal.float?) with
  | none => .error .unreadableNumber
  | some x => .ok x

def yesWords : List String := ["1", "on", "t", "true", "y", "yes"]

def noWords : List String := ["0", "off", "f", "false", "n", "no"]

/-- The boolean that a text spells, in any letter case. -/
def booleanOfText (s : String) : Except ValueFault Bool :=
  let word := s.map Char.toLower
  if yesWords.contains word then .ok true
  else if noWords.contains word then .ok false
  else .error .unreadableBoolean

def wholeOfFloat (x : Float) : Except ValueFault Int :=
  if x.isNaN || x.isInf then .error .infinite
  else if x.floor != x then .error .fraction
  else if x ≤ -9223372036854775808.0 || 9223372036854775808.0 ≤ x then .error .tooLong
  else .ok x.toInt64.toInt

def readWhole : Json → Except ValueFault Int
  | .bool b => .ok b.toNat
  | .number (.int n) => .ok n
  | .number (.float x) => wholeOfFloat x
  | .string s => wholeOfText s.toList
  | _ => .error .notWhole

/-- The floating number next to a whole one; nothing if it is too great. -/
def floatOfWhole (n : Int) : Except ValueFault Float :=
  let size := Decimal.nearest n.natAbs 0
  if size.isInf then .error .notNumber else .ok (if n < 0 then -size else size)

def readNumber : Json → Except ValueFault Float
  | .bool b => .ok (if b then 1.0 else 0.0)
  | .number (.int n) => floatOfWhole n
  | .number (.float x) => .ok x
  | .string s => numberOfText s.toList
  | _ => .error .notNumber

/-- One is true and zero is false. -/
def booleanOfWhole (n : Int) : Except ValueFault Bool :=
  if n = 1 then .ok true else if n = 0 then .ok false else .error .unreadableBoolean

def readBoolean : Json → Except ValueFault Bool
  | .bool b => .ok b
  | .number (.int n) => booleanOfWhole n
  | .number (.float x) =>
    match wholeOfFloat x with
    | .error _ => .error .notBoolean
    | .ok n => booleanOfWhole n
  | .string s => booleanOfText s
  | _ => .error .notBoolean

end AmbientTypes.Settings
