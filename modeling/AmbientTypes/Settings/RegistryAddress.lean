import AmbientTypes.Json.Value
import AmbientTypes.Url.Host

namespace AmbientTypes.Settings

inductive AddressFault where
  | notText
  | notWeb (address : String)
  | unbalanced
  | badFuture
  | fourNumbers
  | badHost (host : String)
  | compatible (authority : String)
  deriving DecidableEq, Repr

def AddressFault.message : AddressFault → String
  | notText => "registry must be a string"
  | notWeb address => s!"registry must be a valid URL: {Text.quote address}"
  | unbalanced => "Invalid IPv6 URL"
  | badFuture => "IPvFuture address is invalid"
  | fourNumbers => "An IPv4 address cannot be in brackets"
  | badHost host => s!"{Text.quote host} does not appear to be an IPv4 or IPv6 address"
  | compatible authority =>
    s!"netloc '{authority}' contains invalid characters under NFKC normalization"

def isSchemeChar (c : Char) : Bool := c.isAlphanum || ['+', '-', '.'].contains c

def cutScheme (cs : List Char) : List Char × List Char :=
  match Text.cut ':' cs with
  | (c :: name, some rest) =>
    if c.isAlpha && name.all isSchemeChar then ((c :: name).map Char.toLower, rest) else ([], cs)
  | _ => ([], cs)

def authorityOf : List Char → List Char
  | '/' :: '/' :: rest => rest.takeWhile fun c => !(['/', '?', '#'].contains c)
  | _ => []

/-- A host of a future form: a version and its text. -/
def isFuture (host : List Char) : Bool :=
  let (version, rest) := Text.cut '.' (host.drop 1)
  !version.isEmpty && version.all (fun c => (Text.hexValue? c).isSome) &&
    (rest.map (!·.isEmpty)).getD false

def checkBracketed (host : List Char) : Except AddressFault Unit :=
  if host.head? = some 'v' then if isFuture host then .ok () else .error .badFuture
  else if Url.Host.isFourNumbers host then .error .fourNumbers
  else if Url.Host.isBracketed host then .ok ()
  else .error (.badHost (String.ofList host))

def checkBrackets (authority : List Char) : Except AddressFault Unit :=
  match authority.contains '[', authority.contains ']' with
  | false, false => .ok ()
  | true, true =>
    let opened := ((Text.cut '[' authority).2).getD []
    checkBracketed (Text.cut ']' opened).1
  | _, _ => .error .unbalanced

/-- Characters whose compatibility form holds a character that ends an authority or divides it. -/
def dividingForms : List Nat := [
  8263, 8264, 8265, 8448, 8449, 8453, 8454, 10868, 65043, 65046, 65109, 65110, 65119, 65131, 65283,
  65295, 65306, 65311, 65312]

def checkForms (authority : List Char) : Except AddressFault Unit :=
  if authority.any fun c => dividingForms.contains c.toNat then
    .error (.compatible (String.ofList authority))
  else .ok ()

/-- The characters of an address that count: none of the spaces and controls at its beginning, and
no tabs and line ends. -/
def significant (address : String) : List Char :=
  (address.toList.dropWhile fun c => c.toNat ≤ 32).filter fun c => !(['\t', '\n', '\r'].contains c)

def checkAddress (address : String) : Except AddressFault Unit := do
  let (scheme, rest) := cutScheme (significant address)
  let authority := authorityOf rest
  checkBrackets authority
  checkForms authority
  let scheme := String.ofList scheme
  if (scheme = "http" || scheme = "https") && !authority.isEmpty then .ok ()
  else .error (.notWeb address)

def normalAddress (s : String) : String := Text.stripSlashes (Text.strip s)

def readAddress : Json → Except AddressFault String
  | .string s => do
    checkAddress (normalAddress s)
    return normalAddress s
  | _ => .error .notText

end AmbientTypes.Settings
