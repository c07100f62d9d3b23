import Typeahead.Json.Value
import Typeahead.Web.Address
import Typeahead.Web.Status

/-!
# Requests and their answers

A network answers each request by its address: with a reply whose body comes in
chunks, or with a failure.  A reply that sends the client elsewhere is followed
if the caller wants that, up to twenty times.
-/

namespace Typeahead.Web

set_option autoImplicit false

/-- The ways in which a connection fails. -/
inductive TransportKind where
  | connect
  | read
  | readTimeout
  | connectTimeout
  | protocol
  deriving DecidableEq, Repr, Inhabited

/-- A connection that failed. -/
structure TransportFault where
  kind : TransportKind
  reason : String
  deriving DecidableEq, Repr, Inhabited

/-- A reply to a request. -/
structure Reply where
  status : Int := 200
  headers : List (String × String) := []
  /-- the body as it comes in -/
  chunks : List (List UInt8) := []
  /-- the failure after the last chunk, if there is one -/
  failure : Option TransportFault := none
  deriving Repr, Inhabited

/-- What becomes of a request. -/
inductive Answer where
  | reply (reply : Reply)
  | failure (fault : TransportFault)
  deriving Repr, Inhabited

/-- The answers of a network by the texts of addresses. -/
structure Network where
  answers : List (String × Answer) := []
  /-- the answer at every other address -/
  otherwise : Answer := .failure ⟨.connect, "connection refused"⟩
  deriving Repr, Inhabited

/-- The answer at an address. -/
def Network.answer (network : Network) (address : String) : Answer :=
  (Json.lastMember? address network.answers).getD network.otherwise

/-- The value of a header, whatever the case of its name.  Several values are joined by commas. -/
def Reply.header? (reply : Reply) (name : String) : Option String :=
  let sent := reply.headers.filter fun header => header.1.map Char.toLower == name
  if sent.isEmpty then none else some (", ".intercalate (sent.map Prod.snd))

/-- Where a reply sends the client. -/
def Reply.location? (reply : Reply) : Option String :=
  if isRedirect reply.status then reply.header? "location" else none

/-- A status that reports no success. -/
structure StatusFault where
  status : Int
  address : String
  location : Option String
  deriving DecidableEq, Repr, Inhabited

/-- What is said about a status that reports no success. -/
def StatusFault.message (fault : StatusFault) : String :=
  let code := toString fault.status
  statusKind fault.status ++ " '" ++ code ++ " " ++ statusPhrase fault.status ++ "' for url '" ++
    fault.address ++ "'\n" ++
    (match fault.location with
      | some location => "Redirect location: '" ++ location ++ "'\n"
      | none => "") ++
    "For more information check: https://developer.mozilla.org/en-US/docs/Web/HTTP/Status/" ++ code

/-- Why a request brought no usable answer. -/
inductive WebFault where
  | transport (fault : TransportFault)
  | status (fault : StatusFault)
  | tooManyRedirects
  /-- a reply named a place that is no address -/
  | badLocation (fault : AddressFault)
  /-- the request had no address -/
  | badAddress (fault : AddressFault)
  deriving DecidableEq, Repr, Inhabited

/-- What is said about a request without a usable answer. -/
def WebFault.message : WebFault → String
  | .transport fault => fault.reason
  | .status fault => fault.message
  | .tooManyRedirects => "Exceeded maximum allowed redirects."
  | .badLocation fault => "Invalid URL in location header: " ++ fault.message ++ "."
  | .badAddress fault => fault.message

/-- How many redirects are followed. -/
def maxRedirects : Nat := 20

/-- The address that a reply sends the client to, seen from the address of the request. -/
def redirectTarget (request : Address) (location : String) : Except WebFault Address := do
  let target ←
    match Address.ofText location with
    | .ok target => pure target
    | .error fault => throw (.badLocation fault)
  let target ←
    if !target.scheme.isEmpty && target.host.isEmpty then
      (target.withParts request.host target.fragment).mapError .badAddress
    else pure target
  let target ←
    if target.isAbsolute then pure target
    else (Address.ofText (request.join target).text).mapError .badAddress
  match Address.nonempty target.fragment, Address.nonempty request.fragment with
  | none, some fragment =>
      (target.withParts target.host (some (percentDecodeText fragment))).mapError .badAddress
  | _, _ => return target

/-- The address that a request is sent to.  A text that names no host is taken as a path. -/
def requestAddress (text : String) : Except AddressFault Address := do
  let address ← Address.ofText text
  if address.isAbsolute then return address
  let path := '/' :: address.path.dropWhile (· == '/')
  Address.checkPart "path" path
  Address.checkPart "query" (address.query.getD [])
  return { scheme := [], userinfo := [], host := [], port := none, path, query := address.query,
           fragment := none }

/-- The requests that were made, and the last reply with its address. -/
structure Exchange where
  requests : List String
  outcome : Except WebFault (Address × Reply)
  deriving Inhabited

/-- Sends a request and follows up to the given number of redirects. -/
def Network.follow (network : Network) (redirects : Nat) (address : Address) : Exchange :=
  match network.answer address.text with
  | .failure fault => ⟨[address.text], .error (.transport fault)⟩
  | .reply reply =>
      match reply.location? with
      | none => ⟨[address.text], .ok (address, reply)⟩
      | some location =>
          match redirectTarget address location with
          | .error fault => ⟨[address.text], .error fault⟩
          | .ok target =>
              match reply.failure with
              | some fault => ⟨[address.text], .error (.transport fault)⟩
              | none =>
                  match redirects with
                  | 0 => ⟨[address.text], .error .tooManyRedirects⟩
                  | redirects + 1 =>
                      let rest := network.follow redirects target
                      ⟨address.text :: rest.requests, rest.outcome⟩

/-- Sends a request and follows no redirect, although the place that the reply names must be one. -/
def Network.ask (network : Network) (address : Address) : Exchange :=
  match network.answer address.text with
  | .failure fault => ⟨[address.text], .error (.transport fault)⟩
  | .reply reply =>
      match reply.location?.map (redirectTarget address) with
      | some (.error fault) => ⟨[address.text], .error fault⟩
      | _ => ⟨[address.text], .ok (address, reply)⟩

/-- The reply, if its status reports success. -/
def checkStatus (address : Address) (reply : Reply) : Except WebFault Reply :=
  if isSuccess reply.status then .ok reply
  else .error (.status ⟨reply.status, address.text, reply.location?⟩)

end Typeahead.Web
