import AmbientTypes.Decimal.Number
import AmbientTypes.Declaration.Clause
import AmbientTypes.Text.Identifier
import AmbientTypes.Text.Quoted

namespace AmbientTypes.Declaration

/-- A character of a template, or two that a backslash joins. -/
inductive Token where
  | plain (c : Char)
  | escaped (c : Char)
  deriving DecidableEq, Repr

namespace Token

def text : Token → List Char
  | plain c => [c]
  | escaped c => ['\\', c]

/-- The tokens of a template; a backslash at the very end stands for itself. -/
def ofChars : List Char → List Token
  | [] => []
  | '\\' :: c :: cs => escaped c :: ofChars cs
  | c :: cs => plain c :: ofChars cs

def digitBelow? (bound : Nat) : Token → Option Char
  | plain c => if c.isDigit && c.toNat - 48 < bound then some c else none
  | escaped _ => none

end Token

inductive Insert where
  | char (c : Char)
  | whole
  | mark
  deriving DecidableEq, Repr

inductive TemplateFault where
  | noOpening (position : Nat)
  | noName (position : Nat)
  | openName (position : Nat)
  | badName (name : String) (position : Nat)
  | unknownName (name : String)
  | badReference (number : Nat) (position : Nat)
  | hugeOctal (digits : List Char) (position : Nat)
  | badEscape (c : Char) (position : Nat)
  deriving DecidableEq, Repr

def reference (number position : Nat) : Except TemplateFault Insert :=
  match number with
  | 0 => .ok .whole
  | 1 => .ok .mark
  | _ => .error (.badReference number position)

/-- The reference behind `\g`: a number in angles. `position` is that of the opening angle. -/
def namedReference (position : Nat) (tokens : List Token) :
    Except TemplateFault (Insert × Nat × List Token) :=
  match tokens with
  | .plain '<' :: tokens =>
    let name := (tokens.takeWhile (· ≠ .plain '>')).flatMap Token.text
    let start := position + 1
    match tokens.dropWhile (· ≠ .plain '>') with
    | [] => .error (if name.isEmpty then .noName start else .openName start)
    | _ :: rest =>
      if name.isEmpty then .error (.noName start)
      else if Text.isIdentifier name then .error (.unknownName (String.ofList name))
      else match Decimal.readInt name with
        | some (.ofNat n) => do
          let insert ← reference n start
          .ok (insert, start + name.length + 1, rest)
        | _ => .error (.badName (String.ofList name) start)
  | _ => .error (.noOpening position)

/-- The digits at the beginning of tokens, at most as many as given. -/
def leadingDigits (bound most : Nat) (tokens : List Token) : List Char :=
  ((tokens.take most).map (Token.digitBelow? bound)).takeWhile Option.isSome |>.filterMap id

def octalValue (digits : List Char) : Nat := digits.foldl (fun n c => n * 8 + (c.toNat - 48)) 0

def controlEscape? : Char → Option Char
  | 'a' => some '\x07'
  | 'b' => some '\x08'
  | 'f' => some '\x0c'
  | 'n' => some '\n'
  | 'r' => some '\r'
  | 't' => some '\t'
  | 'v' => some '\x0b'
  | '\\' => some '\\'
  | _ => none

/-- The digits of an escape that begins with the digit `c`: with a zero in front up to three octal
digits; otherwise three octal digits, or at most two decimal ones. -/
def escapeDigits (c : Char) (tokens : List Token) : List Char :=
  if c = '0' then c :: leadingDigits 8 2 tokens
  else
    let octal := leadingDigits 8 2 tokens
    if c.toNat - 48 < 8 && octal.length = 2 then c :: octal
    else c :: leadingDigits 10 1 tokens

/-- Reads an escape whose backslash is at `position`. -/
def readEscape (position : Nat) (c : Char) (tokens : List Token) :
    Except TemplateFault (List Insert × Nat × List Token) :=
  if c = 'g' then do
    let (insert, position, rest) ← namedReference (position + 2) tokens
    .ok ([insert], position, rest)
  else if c.isDigit then
    let digits := escapeDigits c tokens
    let rest := tokens.drop (digits.length - 1)
    let next := position + 1 + digits.length
    if c = '0' then .ok ([.char (Char.ofNat (octalValue digits % 256))], next, rest)
    else if digits.length = 3 then
      if 255 < octalValue digits then .error (.hugeOctal digits position)
      else .ok ([.char (Char.ofNat (octalValue digits))], next, rest)
    else do
      let insert ← reference (Decimal.valueOf digits) (position + 1)
      .ok ([insert], next, rest)
  else
    match controlEscape? c with
    | some d => .ok ([.char d], position + 2, tokens)
    | none =>
      if c.isAlpha then .error (.badEscape c position)
      else .ok ([.char '\\', .char c], position + 2, tokens)

/-- Reads tokens from a position on; `fuel` bounds their number. -/
def readTokens : (fuel position : Nat) → List Token → Except TemplateFault (List Insert)
  | 0, _, _ => .ok []
  | _ + 1, _, [] => .ok []
  | fuel + 1, position, .plain c :: tokens => do
    let more ← readTokens fuel (position + 1) tokens
    .ok (.char c :: more)
  | fuel + 1, position, .escaped c :: tokens => do
    let (inserts, position, rest) ← readEscape position c tokens
    let more ← readTokens fuel position rest
    .ok (inserts ++ more)

def readTemplate (template : List Char) : Except TemplateFault (List Insert) :=
  let tokens := Token.ofChars template
  readTokens tokens.length 0 tokens

def expand (inserts : List Insert) (c : Clause) : List Char :=
  inserts.flatMap fun
    | .char d => [d]
    | .whole => c.text
    | .mark => [c.mark]

namespace TemplateFault

def parts : TemplateFault → String × Option Nat
  | noOpening position => ("missing <", some position)
  | noName position => ("missing group name", some position)
  | openName position => ("missing >, unterminated name", some position)
  | badName name position => (s!"bad character in group name {Text.quote name}", some position)
  | unknownName name => (s!"unknown group name {Text.quote name}", none)
  | badReference number position => (s!"invalid group reference {number}", some position)
  | hugeOctal digits position =>
    (s!"octal escape value \\{String.ofList digits} outside of range 0-0o377", some position)
  | badEscape c position => ("bad escape \\" ++ String.singleton c, some position)

/-- The wording of a fault; lines and columns are told if the template has several lines. -/
def message (template : List Char) (f : TemplateFault) : String :=
  match f.parts with
  | (cause, none) => cause
  | (cause, some position) =>
    let place := s!"{cause} at position {position}"
    if template.contains '\n' then
      let before := template.take position
      let line := before.count '\n' + 1
      let column := (before.reverse.takeWhile (· ≠ '\n')).length + 1
      s!"{place} (line {line}, column {column})"
    else place

end TemplateFault

end AmbientTypes.Declaration
