import AmbientTypes.Text.Affix
import AmbientTypes.Text.Lowercase
import AmbientTypes.Text.Quoted
import AmbientTypes.Url.Percent

namespace AmbientTypes.Url.Host

inductive Fault where
  | badNumbers (host : String)
  | badGroups (host : String)
  deriving DecidableEq, Repr

def Fault.message : Fault → String
  | badNumbers host => s!"Invalid IPv4 address: {Text.quote host}"
  | badGroups host => s!"Invalid IPv6 address: {Text.quote host}"

/-- Whether a text is a run of digits and then `more` further ones, one character before each. -/
def isNumeric : Nat → List Char → Bool
  | _, [] => false
  | 0, c :: cs => c.isDigit && (cs.isEmpty || isNumeric 0 cs)
  | _ + 1, [_] => false
  | more + 1, c :: d :: cs => c.isDigit && (isNumeric (more + 1) (d :: cs) || isNumeric more cs)

/-- A number of at most 255 without leading zeros. -/
def isOctet (cs : List Char) : Bool :=
  !cs.isEmpty && cs.length ≤ 3 && cs.all Char.isDigit && (cs = ['0'] || cs.head? ≠ some '0') &&
    cs.foldl (fun n c => n * 10 + (c.toNat - 48)) 0 ≤ 255

def isFourNumbers (cs : List Char) : Bool :=
  let parts := Text.splitAt '.' cs
  parts.length = 4 && parts.all isOctet

def isGroup (cs : List Char) : Bool :=
  !cs.isEmpty && cs.length ≤ 4 && cs.all fun c => (Text.hexValue? c).isSome

/-- Counts four numbers at the end as two groups; nothing if they are bad. -/
def expandNumbers (parts : List (List Char)) : Option (List (List Char)) :=
  let last := parts.getLastD []
  if !last.contains '.' then some parts
  else if isFourNumbers last then some (parts.dropLast ++ [['0'], ['0']])
  else none

/-- The groups before or after the gap; an empty end next to the gap is none. -/
def besideGap (parts : List (List Char)) : List (List Char) :=
  if parts = [[]] then [] else parts

/-- Eight groups, or fewer with one gap. -/
def isGroups (parts : List (List Char)) : Bool :=
  let inner := (parts.drop 1).dropLast
  match inner.findIdx? List.isEmpty with
  | none => parts.length = 8 && parts.all isGroup
  | some i =>
    let before := besideGap (parts.take (i + 1))
    let after := besideGap (parts.drop (i + 2))
    before.all isGroup && after.all isGroup && before.length + after.length < 8

/-- Groups with an optional zone after a percent sign. -/
def isBracketed (cs : List Char) : Bool :=
  let (groups, zone) := Text.cut '%' cs
  let zoneIsGood := match zone with
    | none => true
    | some zone => !zone.isEmpty && !zone.contains '%'
  let parts := Text.splitAt ':' groups
  zoneIsGood && 3 ≤ parts.length &&
    match expandNumbers parts with
    | some parts => parts.length ≤ 9 && isGroups parts
    | none => false

def isNameChar (c : Char) : Bool :=
  Percent.isUnreserved c || "!$&'()*+,;=\"`\x7b\x7d%|\\".toList.contains c

def inBrackets? (cs : List Char) : Option (List Char) :=
  match cs with
  | '[' :: rest => if rest.getLast? = some ']' then some rest.dropLast else none
  | _ => none

/-- Reads a host; names are lower-case, and brackets are left out. -/
def read (cs : List Char) : Except Fault (List Char) :=
  if isNumeric 3 cs then
    if isFourNumbers cs then .ok cs else .error (.badNumbers (String.ofList cs))
  else match inBrackets? cs with
    | some inner => if isBracketed inner then .ok inner else .error (.badGroups (String.ofList cs))
    | none => .ok (Percent.encode isNameChar (Text.lower (String.ofList cs)).toList)

end AmbientTypes.Url.Host
