import AmbientTypes.Json.Value

namespace AmbientTypes.Json

structure Layout where
  /-- Characters outside ASCII are escaped. -/
  ascii : Bool
  /-- The width of one level; without it all stands on one line. -/
  indent : Option Nat
  deriving DecidableEq, Repr

def unitEscape (n : Nat) : List Char := '\\' :: 'u' :: Text.hexDigits 4 n

def encodeChar (ascii : Bool) (c : Char) : List Char :=
  if c = '"' then ['\\', '"']
  else if c = '\\' then ['\\', '\\']
  else if c = '\n' then ['\\', 'n']
  else if c = '\r' then ['\\', 'r']
  else if c = '\t' then ['\\', 't']
  else if c = '\x08' then ['\\', 'b']
  else if c = '\x0c' then ['\\', 'f']
  else if c.val < 32 then unitEscape c.toNat
  else if !ascii || c.val < 127 then [c]
  else if c.toNat < 0x10000 then unitEscape c.toNat
  else
    let n := c.toNat - 0x10000
    unitEscape (0xD800 + n / 0x400) ++ unitEscape (0xDC00 + n % 0x400)

def encodeString (ascii : Bool) (s : String) : String :=
  String.ofList ('"' :: s.toList.flatMap (encodeChar ascii) ++ ['"'])

/-- Floating numbers without a decimal form have names of their own. -/
def encodeNumber : Number → String
  | .int n => toString n
  | .float x =>
    if x.isNaN then "NaN"
    else if x.isInf then if 0 < x then "Infinity" else "-Infinity"
    else Decimal.floatText x

namespace Layout

/-- What separates the parts of a value at a depth. -/
def lineBreak (l : Layout) (depth : Nat) : String :=
  match l.indent with
  | none => ""
  | some width => "\n" ++ String.ofList (List.replicate (width * depth) ' ')

def separator (l : Layout) (depth : Nat) : String :=
  match l.indent with
  | none => ", "
  | some _ => "," ++ l.lineBreak depth

end Layout

mutual

def encodeAt (l : Layout) (depth : Nat) : Json → String
  | null => "null"
  | bool b => if b then "true" else "false"
  | number n => encodeNumber n
  | string s => encodeString l.ascii s
  | array [] => "[]"
  | array (v :: vs) =>
    "[" ++ l.lineBreak (depth + 1) ++ encodeAt l (depth + 1) v ++ encodeItems l (depth + 1) vs ++
      l.lineBreak depth ++ "]"
  | object [] => "\x7b\x7d"
  | object ((k, v) :: ms) =>
    "\x7b" ++ l.lineBreak (depth + 1) ++ encodeString l.ascii k ++ ": " ++
      encodeAt l (depth + 1) v ++ encodeMembers l (depth + 1) ms ++ l.lineBreak depth ++ "\x7d"

def encodeItems (l : Layout) (depth : Nat) : List Json → String
  | [] => ""
  | v :: vs => l.separator depth ++ encodeAt l depth v ++ encodeItems l depth vs

def encodeMembers (l : Layout) (depth : Nat) : List (String × Json) → String
  | [] => ""
  | (k, v) :: ms =>
    l.separator depth ++ encodeString l.ascii k ++ ": " ++ encodeAt l depth v ++
      encodeMembers l depth ms

end

def encode (l : Layout) (v : Json) : String := encodeAt l 0 v

end AmbientTypes.Json
