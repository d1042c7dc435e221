import AmbientTypes.Text.Quoted
import AmbientTypes.Text.Utf8

namespace AmbientTypes.Text

inductive Encoding where
  | utf8
  | utf16 (little : Bool)
  | utf32 (little : Bool)
  deriving DecidableEq, Repr

namespace Encoding

def name : Encoding → String
  | utf8 => "utf-8"
  | utf16 true => "utf-16-le"
  | utf16 false => "utf-16-be"
  | utf32 true => "utf-32-le"
  | utf32 false => "utf-32-be"

def marks : List (List UInt8 × Encoding) := [
  ([0x00, 0x00, 0xFE, 0xFF], utf32 false), ([0xFF, 0xFE, 0x00, 0x00], utf32 true),
  ([0xFE, 0xFF], utf16 false), ([0xFF, 0xFE], utf16 true), ([0xEF, 0xBB, 0xBF], utf8)]

/-- The encoding that the zero bytes at the beginning show. -/
def ofZeros : List UInt8 → Encoding
  | 0 :: 0 :: _ :: _ :: _ => utf32 false
  | 0 :: _ :: _ :: _ :: _ => utf16 false
  | _ :: 0 :: 0 :: 0 :: _ => utf32 true
  | _ :: 0 :: _ :: _ :: _ => utf16 true
  | [0, _] => utf16 false
  | [_, 0] => utf16 true
  | _ => utf8

/-- The encoding of a text and the size of its mark. -/
def detect (bytes : List UInt8) : Encoding × Nat :=
  match marks.find? fun m => m.1.isPrefixOf bytes with
  | some (mark, encoding) => (encoding, mark.length)
  | none => (ofZeros bytes, 0)

inductive Cause where
  | utf8 (cause : Utf8.Cause)
  | truncatedUnit
  | outOfRange
  deriving DecidableEq, Repr

structure Fault where
  encoding : Encoding
  cause : Cause
  start : Nat
  size : Nat
  lead : UInt8
  deriving DecidableEq, Repr

/-- The character of a code point, and the replacement character for a surrogate. -/
def pointChar (n : Nat) : Char := if h : n.isValidChar then Char.ofNatAux n h else '\ufffd'

def pair (little : Bool) (a b : UInt8) : Nat :=
  if little then b.toNat * 256 + a.toNat else a.toNat * 256 + b.toNat

/-- The second unit of a pair of surrogates, and what follows it. -/
def lowUnit? (little : Bool) : List UInt8 → Option (Nat × List UInt8)
  | a :: b :: rest =>
    let unit := pair little a b
    if 0xDC00 ≤ unit && unit < 0xE000 then some (unit, rest) else none
  | _ => none

def decodeUnits (little : Bool) (start : Nat) : Nat → List UInt8 → Except Fault (List Char)
  | 0, _ => .ok []
  | _ + 1, [] => .ok []
  | _ + 1, [a] => .error ⟨utf16 little, .truncatedUnit, start, 1, a⟩
  | fuel + 1, a :: b :: rest =>
    let unit := pair little a b
    if 0xD800 ≤ unit && unit < 0xDC00 then
      match lowUnit? little rest with
      | some (low, rest) =>
        (pointChar (0x10000 + (unit - 0xD800) * 0x400 + (low - 0xDC00)) :: ·) <$>
          decodeUnits little (start + 4) fuel rest
      | none => (pointChar unit :: ·) <$> decodeUnits little (start + 2) fuel rest
    else (pointChar unit :: ·) <$> decodeUnits little (start + 2) fuel rest

def decodePoints (little : Bool) (start : Nat) : List UInt8 → Except Fault (List Char)
  | [] => .ok []
  | a :: b :: c :: d :: rest =>
    let point := if little then pair little c d * 0x10000 + pair little a b
      else pair little a b * 0x10000 + pair little c d
    if 0x110000 ≤ point then .error ⟨utf32 little, .outOfRange, start, 4, a⟩
    else (pointChar point :: ·) <$> decodePoints little (start + 4) rest
  | a :: rest => .error ⟨utf32 little, .truncatedUnit, start, rest.length + 1, a⟩

/-- Reads a text in the encoding that it shows. Positions count from the mark of an encoding of
wide units, and from behind the mark of UTF-8. -/
def decode (bytes : List UInt8) : Except Fault (List Char) :=
  let (encoding, mark) := detect bytes
  let body := bytes.drop mark
  match encoding with
  | utf8 => (Utf8.decode body).mapError fun f => ⟨utf8, .utf8 f.cause, f.start, f.size, f.lead⟩
  | utf16 little => decodeUnits little mark body.length body
  | utf32 little => decodePoints little mark body

def Cause.message : Cause → String
  | utf8 .badStart => "invalid start byte"
  | utf8 .badContinuation => "invalid continuation byte"
  | utf8 .truncated => "unexpected end of data"
  | truncatedUnit => "truncated data"
  | outOfRange => "code point not in range(0x110000)"

def Fault.message (f : Fault) : String :=
  let place :=
    if f.size = 1 then
      s!"byte 0x{String.ofList (hexDigits 2 f.lead.toNat)} in position {f.start}"
    else s!"bytes in position {f.start}-{f.start + f.size - 1}"
  s!"'{f.encoding.name}' codec can't decode {place}: {f.cause.message}"

end Encoding

end AmbientTypes.Text
