import Typeahead.Json.Display
import Typeahead.Json.Encoding
import Typeahead.Web.Network
import Typeahead.Web.Percent

/-!
# Asking a service for suggestions

A client asks the service at an address for the suggestions for a typed text.
The typed text is the end of the path of the request: slashes and at signs stand
for themselves, so that scoped names arrive as they are, and everything else
that could have a meaning in an address is encoded.  The answer is a list in
JSON.
-/

namespace Typeahead

open Typeahead.Json Typeahead.Text Typeahead.Web

set_option autoImplicit false

/-- A client of the service. -/
structure Client where
  /-- the address in front of every typed text; it ends with a slash -/
  base : String := "http://localhost:8080/v1/"
  /-- the client has made its connection itself -/
  ownsConnection : Bool := true
  deriving DecidableEq, Repr, Inhabited

/-- Why there are no suggestions. -/
inductive ClientFault where
  | web (fault : WebFault)
  /-- the bytes of the answer spell no text -/
  | badBytes
  /-- the answer is not JSON -/
  | notJson
  /-- the answer holds an integer that is too long to be read -/
  | tooManyDigits (count : Nat)
  | notAList (typed : String) (payload : Value)
  deriving Repr, Inhabited

/-- What is said about an answer without suggestions; some faults have nothing to say. -/
def ClientFault.message : ClientFault → String
  | .web fault => fault.message
  | .badBytes => ""
  | .notJson => ""
  | .tooManyDigits count =>
      "Exceeds the limit (4300 digits) for integer string conversion: value has " ++
        toString count ++ " digits; use sys.set_int_max_str_digits() to increase the limit"
  | .notAList typed payload =>
      "Unexpected suggestions payload for " ++ quoted typed ++ ": " ++ showValue payload

namespace Client

/-- A client of the service at an address. -/
def ofBase (base : String) : Client :=
  { base := if base.toList.getLast? = some '/' then base else base ++ "/" }

/-- The connection is closed when the client is done with it. -/
def closesConnection (client : Client) : Bool := client.ownsConnection

/-- The characters of a typed text that stand for themselves. -/
def isTypedSafe (c : Char) : Bool :=
  isUnreserved c || c == '/' || c == '@'

/-- The text of the address that is asked for a typed text. -/
def addressText (client : Client) (typed : String) : String :=
  client.base ++ String.ofList (percentEncode isTypedSafe typed.toList)

/-- The limits for the text of an answer. -/
def answerLimits (text : List Char) : Limits :=
  { depth := text.length, integerDigits := 4300, realDigits := none }

/-- The suggestions in the body of an answer. -/
def suggestionsOf (typed : String) (body : List UInt8) : Except ClientFault (List String) :=
  match charactersOf? body with
  | none => .error .badBytes
  | some text =>
      match read (answerLimits text) text with
      | .ok (.array items) => .ok (items.map displayText)
      | .ok payload => .error (.notAList typed payload)
      | .error (.tooManyDigits count) => .error (.tooManyDigits count)
      | .error _ => .error .notJson

/-- The suggestions in a reply.  The whole body is read before the status is looked at. -/
def suggestionsOfReply (typed : String) (address : Address) (reply : Reply) :
    Except ClientFault (List String) :=
  match reply.failure with
  | some fault => .error (.web (.transport fault))
  | none =>
      match checkStatus address reply with
      | .error fault => .error (.web fault)
      | .ok reply => suggestionsOf typed reply.chunks.flatten

end Client

/-- What comes of asking for suggestions: the requests, and the suggestions. -/
structure Asking where
  requests : List String
  outcome : Except ClientFault (List String)

/-- Asks for the suggestions for a typed text. -/
def Client.search (client : Client) (network : Network) (typed : String) : Asking :=
  match requestAddress (client.addressText typed) with
  | .error fault => ⟨[], .error (.web (.badAddress fault))⟩
  | .ok address =>
      let exchange := network.ask address
      ⟨exchange.requests, match exchange.outcome with
        | .error fault => .error (.web fault)
        | .ok (final, reply) => Client.suggestionsOfReply typed final reply⟩

end Typeahead
