import AmbientTypes.Json.Decode
import AmbientTypes.Logging.Journal
import AmbientTypes.Network.Status
import AmbientTypes.Text.Encoding
import AmbientTypes.Url.Resolve

namespace AmbientTypes

/-- A response, with the address that it sends the client to. -/
structure Response where
  status : Nat
  location : Option String
  body : List UInt8

inductive Reply where
  | response (r : Response)
  | timeout
  | failure (message : String)

/-- The replies to requests, by the address in normal form. -/
abbrev Network := String → Reply

namespace Network

def accept : String := "application/json, application/octet-stream"

def maxRedirects : Nat := 20

inductive Cause where
  | badUrl (fault : Url.Fault)
  | noProtocol
  | badProtocol (scheme : String)
  | badLocation (fault : Url.Fault)
  | tooManyRedirects
  | broken (message : String)

def Cause.message : Cause → String
  | badUrl fault => fault.message
  | noProtocol => "Request URL is missing an 'http://' or 'https://' protocol."
  | badProtocol scheme => s!"Request URL has an unsupported protocol '{scheme}://'."
  | badLocation fault => s!"Invalid URL in location header: {fault.message}."
  | tooManyRedirects => "Exceeded maximum allowed redirects."
  | broken message => message

inductive Obstacle where
  | timeout
  | cause (c : Cause)

inductive Fault where
  | timeout (address : String) (limit : Number)
  | failed (address : String) (cause : Cause)
  | refused (address : String) (status : Nat)
  | badEncoding (address : String) (fault : Text.Encoding.Fault)
  | badJson (address : String) (content : List Char) (fault : Json.Fault)

def Fault.message : Fault → String
  | timeout address limit => s!"request to {address} timed out after {limit.text}s"
  | failed address cause => s!"request to {address} failed: {cause.message}"
  | refused address status => s!"HTTP request failed: {status} {reason status} ({address})"
  | badEncoding address fault => s!"invalid JSON from {address}: {fault.message}"
  | badJson address content fault => s!"invalid JSON from {address}: {fault.message content}"

def protocolFault? (u : Url) : Option Cause :=
  let scheme := String.ofList u.scheme
  if !u.isAbsolute then some .noProtocol
  else if scheme = "http" || scheme = "https" then none
  else some (.badProtocol scheme)

def send (network : Network) (u : Url) : ExceptT Obstacle Journaled Response :=
  match protocolFault? u with
  | some cause => throw (.cause cause)
  | none => do
    Journaled.record (.request u.text)
    match network u.text with
    | .response r => return r
    | .timeout => throw .timeout
    | .failure message => throw (.cause (.broken message))

/-- The fragment of an address as it was meant. -/
def fragmentOf (u : Url) : List Char := Url.Percent.decode (u.fragment.getD [])

/-- The address that a response to `u` sends the client to. A missing host and a missing fragment
are those of `u`. -/
def target (u : Url) (location : String) : Except Cause Url := do
  let next ← (Url.parse location).mapError .badLocation
  let next ←
    if !next.scheme.isEmpty && next.host.isEmpty then (next.withHost u.host).mapError .badUrl
    else .ok next
  let next ← if next.isAbsolute then .ok next else (Url.resolve u next).mapError .badUrl
  if (fragmentOf next).isEmpty && !(fragmentOf u).isEmpty then
    (next.withFragment (fragmentOf u)).mapError .badUrl
  else .ok next

def Response.redirect? (r : Response) : Option String :=
  if isRedirect r.status then r.location else none

/-- Makes a request and those that it is redirected to. -/
def follow (network : Network) (redirects : Nat) (u : Url) :
    ExceptT Obstacle Journaled Response := do
  let response ← send network u
  match Response.redirect? response with
  | none => return response
  | some location =>
    match target u location with
    | .error cause => throw (.cause cause)
    | .ok next =>
      match redirects with
      | 0 => throw (.cause .tooManyRedirects)
      | redirects + 1 => follow network redirects next

/-- A network, and how long it may take to reply. -/
structure Client where
  network : Network
  limit : Number

namespace Client

def fault (c : Client) (address : String) : Obstacle → Fault
  | .timeout => .timeout address c.limit
  | .cause cause => .failed address cause

def response (c : Client) (address : String) : ExceptT Obstacle Journaled Response :=
  match Url.parse address with
  | .error e => throw (.cause (.badUrl e))
  | .ok u => follow c.network maxRedirects u

def bytes (c : Client) (address : String) : ExceptT Fault Journaled (List UInt8) := do
  Journaled.log .debug "registry.fetch" [("url", .string address)]
  let response ← (c.response address).adapt (c.fault address)
  if isSuccess response.status then return response.body
  else throw (.refused address response.status)

def readJson (address : String) (content : List UInt8) : Except Fault Json :=
  match Text.Encoding.decode content with
  | .error e => .error (.badEncoding address e)
  | .ok cs => (Json.decode cs).mapError (.badJson address cs)

def json (c : Client) (address : String) : ExceptT Fault Journaled Json := do
  ExceptT.mk (pure (readJson address (← c.bytes address)))

end Client

end Network

end AmbientTypes
