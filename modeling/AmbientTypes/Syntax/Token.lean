import AmbientTypes.Syntax.Node

namespace AmbientTypes.Syntax

/-- White space between tokens, all invisible characters included. -/
def isGap (c : Char) : Bool :=
  if c.val < 128 then c = ' ' || (9 ≤ c.val && c.val ≤ 13)
  else c.val = 0x85 || c.val = 0xA0 || c.val = 0x1680 || (0x2000 ≤ c.val && c.val ≤ 0x200B) ||
    c.val = 0x2028 || c.val = 0x2029 || c.val = 0x202F || c.val = 0x205F || c.val = 0x2060 ||
    c.val = 0x3000 || c.val = 0xFEFF

def isLineBreak (c : Char) : Bool := c = '\n' || c = '\r' || c = '\u2028' || c = '\u2029'

/-- ASCII characters that stand for themselves. -/
def isMark (c : Char) : Bool :=
  match c with
  | ':' | ';' | '\x60' | '"' | '\'' | '@' | '#' | '.' | ',' | '|' | '^' | '&' | '<' | '=' | '>'
  | '+' | '-' | '*' | '/' | '\\' | '%' | '?' | '!' | '~' | '(' | ')' | '[' | ']' | '\x7b'
  | '\x7d' => true
  | _ => false

/-- A character of a word; escapes in words begin with a backslash. -/
def isWordChar (c : Char) : Bool := c = '\\' || (0x20 < c.val && !isMark c && !isGap c)

def isWordStart (c : Char) : Bool := isWordChar c && !c.isDigit

/-- What stands between two tokens, and the text from the second one on. -/
structure Gap where
  lineBreak : Bool
  comments : Nat
  rest : List Char

inductive GapPart where
  | blank
  | line
  | block

/-- Reads a gap from inside one of its parts. -/
def Gap.scan (lineBreak : Bool) (comments : Nat) : GapPart → List Char → Gap
  | _, [] => ⟨lineBreak, comments, []⟩
  | .blank, '/' :: '/' :: cs => scan lineBreak (comments + 1) .line cs
  | .blank, '/' :: '*' :: cs => scan lineBreak (comments + 1) .block cs
  | .blank, c :: cs =>
    if isGap c then scan (lineBreak || isLineBreak c) comments .blank cs
    else ⟨lineBreak, comments, c :: cs⟩
  | .line, c :: cs =>
    if isLineBreak c then scan true comments .blank cs else scan lineBreak comments .line cs
  | .block, '*' :: '/' :: cs => scan lineBreak comments .blank cs
  | .block, c :: cs => scan (lineBreak || isLineBreak c) comments .block cs

/-- White space and comments. Readers of tokens leave the gap behind a token to the next reader,
since a line break in it can matter. -/
def gap (cs : List Char) : Gap := Gap.scan false 0 .blank cs

def skip (cs : List Char) : List Char := (gap cs).rest

mutual

def wordTail : List Char → List Char × List Char
  | [] => ([], [])
  | '\\' :: 'u' :: '\x7b' :: cs =>
    let (word, rest) := bracedTail cs
    ('\\' :: 'u' :: '\x7b' :: word, rest)
  | c :: cs =>
    if isWordChar c then
      let (word, rest) := wordTail cs
      (c :: word, rest)
    else ([], c :: cs)

/-- The same from inside the braces of an escape. -/
def bracedTail : List Char → List Char × List Char
  | [] => ([], [])
  | '\x7d' :: cs =>
    let (word, rest) := wordTail cs
    ('\x7d' :: word, rest)
  | c :: cs =>
    let (word, rest) := bracedTail cs
    (c :: word, rest)

end

/-- Reads a word; the mark of a private name belongs to it. -/
def word? : List Char → Option (String × List Char)
  | [] => none
  | c :: cs =>
    if isWordStart c then
      let (word, rest) := wordTail (c :: cs)
      some (String.ofList word, rest)
    else if c = '#' && (cs.head?.any isWordStart) then
      let (word, rest) := wordTail cs
      some (String.ofList ('#' :: word), rest)
    else none

/-- Drops a token of which nothing is known. -/
def dropToken (cs : List Char) : List Char :=
  match word? cs with
  | some (_, rest) => rest
  | none => cs.drop 1

def dropMark (mark : Char) (cs : List Char) : List Char :=
  match skip cs with
  | [] => cs
  | c :: rest => if c = mark then rest else cs

def meets (start : List Char) (cs : List Char) : Bool := start.isPrefixOf (skip cs)

/-- The next word, unless a line break stands before it. -/
def wordOnLine? (cs : List Char) : Option (String × List Char) :=
  let g := gap cs
  if g.lineBreak then none else word? g.rest

def isHex (c : Char) : Bool := c.isDigit || ('a' ≤ c && c ≤ 'f') || ('A' ≤ c && c ≤ 'F')

def isOctal (c : Char) : Bool := '0' ≤ c && c ≤ '7'

/-- The number of characters that an escape has after its backslash. -/
def escapeSize : List Char → Nat
  | [] => 0
  | 'u' :: '\x7b' :: cs => (cs.takeWhile isHex).length + 3
  | 'u' :: cs => ((cs.take 4).takeWhile isHex).length + 1
  | 'x' :: cs => ((cs.take 2).takeWhile isHex).length + 1
  | c :: cs =>
    if isOctal c then ((cs.take 2).takeWhile isOctal).length + 1
    else if (c = '\r' || c = '?') &&
      cs.head?.any (fun d => d = '\n' || d = '\u2028' || d = '\u2029') then 2
    else 1

def isPlain (mark c : Char) : Bool := c ≠ mark && c ≠ '\\' && c ≠ '\n' && c ≠ '\r'

def readParts (mark : Char) (cs : List Char) : Option (List Part × List Char) :=
  match cs with
  | [] => none
  | c :: rest =>
    if c = mark then some ([], rest)
    else if c = '\\' then do
      let size := escapeSize rest
      let (parts, after) ← readParts mark (rest.drop size)
      some (.escape (rest.take size) :: parts, after)
    else if isPlain mark c then do
      let (parts, after) ← readParts mark (rest.dropWhile (isPlain mark))
      some (.fragment (c :: rest.takeWhile (isPlain mark)) :: parts, after)
    else none
termination_by cs.length
decreasing_by
  · simp only [List.length_drop, List.length_cons]; omega
  · have := (List.dropWhile_suffix (isPlain mark) (l := rest)).length_le
    simp only [List.length_cons]; omega

def literal? : List Char → Option (List Part × List Char)
  | '"' :: cs => readParts '"' cs
  | '\'' :: cs => readParts '\'' cs
  | _ => none

/-- Reads the text of a template up to its end, where the answer is true, or up to an expression. -/
def templateText : List Char → Option (Bool × List Char)
  | [] => none
  | '\x60' :: cs => some (true, cs)
  | '$' :: '\x7b' :: cs => some (false, cs)
  | '\\' :: _ :: cs => templateText cs
  | _ :: cs => templateText cs

/-- Reads a regular expression from behind its first slash, inside a class of characters or not. -/
def patternTail (inClass : Bool) : List Char → Option (List Char)
  | [] => none
  | '\\' :: _ :: cs => patternTail inClass cs
  | c :: cs =>
    if isLineBreak c then none
    else if c = '/' && !inClass then some cs
    else patternTail (if c = '[' then true else if c = ']' then false else inClass) cs

/-- Drops the rest of a number; `decimal` numbers have points and exponents. -/
def numberTail (decimal : Bool) (before : Char) : List Char → List Char
  | [] => []
  | c :: cs =>
    if isWordChar c || (decimal && c = '.') ||
      (decimal && (c = '+' || c = '-') && (before = 'e' || before = 'E')) then
      numberTail decimal c cs
    else c :: cs

def number? : List Char → Option (List Char)
  | '0' :: c :: cs =>
    if c.isAlpha then some (numberTail false c cs) else some (numberTail true '0' (c :: cs))
  | '.' :: c :: cs => if c.isDigit then some (numberTail true c cs) else none
  | c :: cs => if c.isDigit then some (numberTail true c cs) else none
  | [] => none

/-- Operators between two operands, longer ones before their beginnings. -/
def binaryOperators : List (List Char) := [
  ">>>=", "===", "!==", "**=", "<<=", ">>=", ">>>", "&&=", "||=", "??=", "==", "!=", "<=", ">=",
  "&&", "||", "??", "**", "<<", ">>", "+=", "-=", "*=", "/=", "%=", "&=", "|=", "^=", "+", "-",
  "*", "/", "%", "<", ">", "&", "|", "^", "="].map String.toList

/-- What can follow an operand. -/
inductive Operator where
  | binary
  | typed
  | choice
  | arrow
  deriving DecidableEq, Repr

def operator? (g : Gap) : Option (Operator × List Char) :=
  match g.rest with
  | '=' :: '>' :: rest => some (.arrow, rest)
  | '?' :: '?' :: '=' :: rest => some (.binary, rest)
  | '?' :: '?' :: rest => some (.binary, rest)
  | '?' :: rest => some (.choice, rest)
  | _ =>
    match binaryOperators.find? (·.isPrefixOf g.rest) with
    | some mark => some (.binary, g.rest.drop mark.length)
    | none =>
      match word? g.rest with
      | some ("in", rest) => some (.binary, rest)
      | some ("instanceof", rest) => some (.binary, rest)
      | some ("as", rest) => if g.lineBreak then none else some (.typed, rest)
      | some ("satisfies", rest) => if g.lineBreak then none else some (.typed, rest)
      | _ => none

end AmbientTypes.Syntax
