import AmbientTypes.Json.Value

namespace AmbientTypes.Json

inductive Cause where
  | value
  | propertyName
  | colon
  | comma
  | extra
  | openString
  | controlCharacter
  | escape
  | unicodeEscape
  | hugeNumber (digits : Nat)
  deriving DecidableEq, Repr

/-- A cause and the number of characters from its place to the end of the text. -/
structure Fault where
  cause : Cause
  left : Nat
  deriving DecidableEq, Repr

abbrev Result (α : Type) := Except Fault (α × List Char)

def fail {α : Type} (cause : Cause) (place : List Char) : Result α := .error ⟨cause, place.length⟩

def isSpace (c : Char) : Bool := c = ' ' || c = '\t' || c = '\n' || c = '\r'

def skipSpace (cs : List Char) : List Char := cs.dropWhile isSpace

def fourDigits? : List Char → Option (Nat × List Char)
  | a :: b :: c :: d :: rest =>
    if rest.isEmpty then none
    else do
      let a ← Text.hexValue? a
      let b ← Text.hexValue? b
      let c ← Text.hexValue? c
      let d ← Text.hexValue? d
      some (((a * 16 + b) * 16 + c) * 16 + d, rest)
  | _ => none

def isHighSurrogate (n : Nat) : Bool := 0xD800 ≤ n && n < 0xDC00

def isLowSurrogate (n : Nat) : Bool := 0xDC00 ≤ n && n < 0xE000

def joinSurrogates (high low : Nat) : Char :=
  Char.ofNat (0x10000 + (high - 0xD800) * 0x400 + (low - 0xDC00))

/-- The character of a UTF-16 unit. A surrogate on its own becomes the replacement character, so
texts that differ only in such surrogates are one text here. -/
def unitChar (n : Nat) : Char :=
  if isHighSurrogate n || isLowSurrogate n then '\ufffd' else Char.ofNat n

/-- Reads an escape after its `u`; the second text is what follows it. -/
def readUnicodeEscape (cs : List Char) : Result Char :=
  match fourDigits? cs with
  | none => .error ⟨.unicodeEscape, cs.length + 1⟩
  | some (unit, rest) =>
    match rest with
    | '\\' :: 'u' :: rest' =>
      if isHighSurrogate unit && !(rest'.drop 4).isEmpty then
        match fourDigits? rest' with
        | none => .error ⟨.unicodeEscape, rest'.length + 1⟩
        | some (second, rest'') =>
          if isLowSurrogate second then .ok (joinSurrogates unit second, rest'')
          else .ok (unitChar unit, rest)
      else .ok (unitChar unit, rest)
    | _ => .ok (unitChar unit, rest)

def simpleEscape? : Char → Option Char
  | '"' => some '"'
  | '\\' => some '\\'
  | '/' => some '/'
  | 'b' => some '\x08'
  | 'f' => some '\x0c'
  | 'n' => some '\n'
  | 'r' => some '\r'
  | 't' => some '\t'
  | _ => none

/-- Reads a text up to its closing quote. `opening` is what follows from the opening quote on, and
`read` holds the characters so far, the last one first. -/
def readText (opening read : List Char) : Nat → List Char → Result String
  | 0, _ => fail .openString opening
  | _ + 1, [] => fail .openString opening
  | fuel + 1, c :: cs =>
    if c = '"' then .ok (String.ofList read.reverse, cs)
    else if c = '\\' then
      match cs with
      | [] => fail .openString opening
      | 'u' :: cs' =>
        match readUnicodeEscape cs' with
        | .ok (d, rest) => readText opening (d :: read) fuel rest
        | .error e => .error e
      | d :: cs' =>
        match simpleEscape? d with
        | some e => readText opening (e :: read) fuel cs'
        | none => fail .escape (c :: cs)
    else if c.val < 32 then fail .controlCharacter (c :: cs)
    else readText opening (c :: read) fuel cs

def readDigits (cs : List Char) : List Char × List Char :=
  (cs.takeWhile Char.isDigit, cs.dropWhile Char.isDigit)

/-- The fraction digits after a point; none without a digit. -/
def readFraction : List Char → List Char × List Char
  | '.' :: cs => if (readDigits cs).1.isEmpty then ([], '.' :: cs) else readDigits cs
  | cs => ([], cs)

/-- The exponent; none without a digit. -/
def readExponent? (cs : List Char) : Option (Int × List Char) :=
  match cs with
  | [] => none
  | e :: cs =>
    if e ≠ 'e' && e ≠ 'E' then none
    else
      let (negative, cs) := match cs with
        | '-' :: cs => (true, cs)
        | '+' :: cs => (false, cs)
        | cs => (false, cs)
      let (ds, rest) := readDigits cs
      if ds.isEmpty then none
      else
        let n : Int := Decimal.valueOf ds
        some (if negative then -n else n, rest)

/-- The whole digits of a number: a single zero, or digits that do not begin with one. -/
def readWhole : List Char → List Char × List Char
  | '0' :: cs => (['0'], cs)
  | cs => readDigits cs

def maxDigits : Nat := 4300

/-- Reads a number; `place` is where it begins. -/
def readNumber (place : List Char) : Result Number :=
  let (negative, cs) := match place with
    | '-' :: cs => (true, cs)
    | cs => (false, cs)
  let (whole, cs) := readWhole cs
  if whole.isEmpty then fail .value place
  else
    let (part, cs) := readFraction cs
    match part.isEmpty, readExponent? cs with
    | true, none =>
      if maxDigits < whole.length then fail (.hugeNumber whole.length) place
      else
        let n : Int := Decimal.valueOf whole
        .ok (.int (if negative then -n else n), cs)
    | _, power =>
      let (e, cs) := power.getD (0, cs)
      let x := Decimal.nearest (Decimal.valueOf (whole ++ part)) (e - part.length)
      .ok (.float (if negative then -x else x), cs)

def words : List (List Char × Json) := [
  ("null".toList, .null), ("true".toList, .bool true), ("false".toList, .bool false),
  ("NaN".toList, .number (.float (0.0 / 0.0))),
  ("Infinity".toList, .number (.float (1.0 / 0.0))),
  ("-Infinity".toList, .number (.float (-1.0 / 0.0)))]

def readWord? (cs : List Char) : Option (Json × List Char) :=
  (words.find? fun w => w.1.isPrefixOf cs).map fun w => (w.2, cs.drop w.1.length)

mutual

/-- Reads a value; `size` is the length of the whole text. -/
def readValue (size : Nat) : Nat → List Char → Result Json
  | 0, cs => fail .value cs
  | fuel + 1, cs =>
    match cs with
    | '"' :: rest =>
      match readText cs [] size rest with
      | .ok (s, rest) => .ok (.string s, rest)
      | .error e => .error e
    | '[' :: rest =>
      match skipSpace rest with
      | ']' :: rest => .ok (.array [], rest)
      | rest =>
        match readItems size fuel rest with
        | .ok (vs, rest) => .ok (.array vs, rest)
        | .error e => .error e
    | '\x7b' :: rest =>
      match skipSpace rest with
      | '\x7d' :: rest => .ok (.object [], rest)
      | rest =>
        match readMembers size fuel [] rest with
        | .ok (ms, rest) => .ok (.object ms, rest)
        | .error e => .error e
    | _ =>
      match readWord? cs with
      | some found => .ok found
      | none =>
        match readNumber cs with
        | .ok (n, rest) => .ok (.number n, rest)
        | .error e => .error e

def readItems (size : Nat) : Nat → List Char → Result (List Json)
  | 0, cs => fail .value cs
  | fuel + 1, cs =>
    match readValue size fuel cs with
    | .error e => .error e
    | .ok (v, rest) =>
      match skipSpace rest with
      | ']' :: rest => .ok ([v], rest)
      | ',' :: rest =>
        match readItems size fuel (skipSpace rest) with
        | .ok (vs, rest) => .ok (v :: vs, rest)
        | .error e => .error e
      | rest => fail .comma rest

/-- Reads the members of an object up to its brace; `read` holds those so far. -/
def readMembers (size : Nat) :
    Nat → List (String × Json) → List Char → Result (List (String × Json))
  | 0, _, cs => fail .value cs
  | fuel + 1, read, cs =>
    match cs with
    | '"' :: rest =>
      match readText cs [] size rest with
      | .error e => .error e
      | .ok (name, rest) =>
        match skipSpace rest with
        | ':' :: rest =>
          match readValue size fuel (skipSpace rest) with
          | .error e => .error e
          | .ok (v, rest) =>
            let read := put name v read
            match skipSpace rest with
            | '\x7d' :: rest => .ok (read, rest)
            | ',' :: rest => readMembers size fuel read (skipSpace rest)
            | rest => fail .comma rest
        | rest => fail .colon rest
    | cs => fail .propertyName cs

end

def decode (cs : List Char) : Except Fault Json :=
  match readValue cs.length (2 * cs.length + 2) (skipSpace cs) with
  | .error e => .error e
  | .ok (v, rest) =>
    match skipSpace rest with
    | [] => .ok v
    | rest => .error ⟨.extra, rest.length⟩

def Cause.message : Cause → String
  | value => "Expecting value"
  | propertyName => "Expecting property name enclosed in double quotes"
  | colon => "Expecting ':' delimiter"
  | comma => "Expecting ',' delimiter"
  | extra => "Extra data"
  | openString => "Unterminated string starting at"
  | controlCharacter => "Invalid control character at"
  | escape => "Invalid \\escape"
  | unicodeEscape => "Invalid \\uXXXX escape"
  | hugeNumber digits =>
    s!"Exceeds the limit ({maxDigits} digits) for integer string conversion: value has " ++
      s!"{digits} digits; use sys.set_int_max_str_digits() to increase the limit"

/-- The line and the column, both from one, of a position in a text. -/
def lineColumn (cs : List Char) (position : Nat) : Nat × Nat :=
  let before := cs.take position
  (before.count '\n' + 1, (before.reverse.takeWhile (· ≠ '\n')).length + 1)

def Fault.message (cs : List Char) (fault : Fault) : String :=
  match fault.cause with
  | .hugeNumber _ => fault.cause.message
  | cause =>
    let position := cs.length - fault.left
    let (line, column) := lineColumn cs position
    s!"{cause.message}: line {line} column {column} (char {position})"

end AmbientTypes.Json
