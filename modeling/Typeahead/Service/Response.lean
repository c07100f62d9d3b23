import Typeahead.Index.Lookup
import Typeahead.Json.Printer
import Typeahead.Notice
import Typeahead.Schedule.Instant
import Typeahead.Schedule.Status
import Typeahead.Service.Route

/-!
# Responses of the service

Suggestions are a list in JSON that may be kept for some time.  The health is
reported as an object in JSON.  A store that cannot be read makes the response
an error, which is reported as well.
-/

namespace Typeahead.Service

open Typeahead.Index Typeahead.Json Typeahead.Schedule Typeahead.Store Typeahead.Text

set_option autoImplicit false

/-- A response. -/
structure Response where
  status : Nat
  headers : List (String × String)
  body : String
  /-- the failure that nobody expected, if the response covers one up -/
  crash : Option ReadFault := none
  deriving DecidableEq, Repr, Inhabited

/-- The header that gives the length of a body. -/
def lengthHeader (body : String) : String × String :=
  ("content-length", toString body.utf8ByteSize)

/-- A response with a body of a type. -/
def Response.ofBody (status : Nat) (type body : String) (more : List (String × String)) :
    Response :=
  { status, headers := ("content-type", type) :: lengthHeader body :: more, body }

/-- A response in JSON. -/
def Response.ofJson (status : Nat) (value : Value) (more : List (String × String)) : Response :=
  Response.ofBody status "application/json" value.compact more

/-- A response that only says what is wrong. -/
def Response.ofDetail (status : Nat) (detail : String) (more : List (String × String)) : Response :=
  Response.ofJson status (.object [("detail", .string detail)]) more

/-- The response to a request without a route. -/
def Response.notFound : Response := Response.ofDetail 404 "Not Found" []

/-- The response to a method that a route does not have. -/
def Response.methodNotAllowed : Response :=
  Response.ofDetail 405 "Method Not Allowed" [("allow", "GET")]

/-- The response that sends the client elsewhere. -/
def Response.redirect (location : String) : Response :=
  { status := 307, headers := [lengthHeader "", ("location", location)], body := "" }

/-- The response after a failure that nobody expected. -/
def Response.crashed (fault : ReadFault) : Response :=
  { Response.ofBody 500 "text/plain; charset=utf-8" "Internal Server Error" [] with
    crash := some fault }

/-! ## Suggestions -/

/-- The response to a request for suggestions, and what is reported about it. -/
def suggestionsResponse (lookup : Lookup) (typed : String) :
    Except ReadFault (List String) → Response × List Notice
  | .ok names =>
      (Response.ofJson 200 (.array (names.map .string)) [("cache-control", lookup.cacheControl)], [])
  | .error (.crashed reason) => (Response.crashed (.crashed reason), [])
  | .error fault =>
      (Response.ofDetail 500 "Failed to read suggestions" [],
        [⟨.error, "There was an error requesting the suggestions for the query: " ++
          quoted typed ++ " " ++ fault.message⟩])

/-! ## Health -/

/-- A value that may be missing. -/
def optional {α : Type} (write : α → Value) : Option α → Value
  | some value => write value
  | none => .null

/-- The counters of a build as members of an object. -/
def counterMembers (counters : Counters) : List (String × Value) :=
  [("names_seen", .integer counters.namesSeen), ("names_indexed", .integer counters.namesIndexed),
    ("pairs_written", .integer counters.pairsWritten),
    ("batches_flushed", .integer counters.batchesFlushed),
    ("malformed_records", .integer counters.malformed)]

/-- The status of the builds as an object. -/
def statusValue (status : Status) : Value :=
  .object [("state", .string status.stateName), ("builds_attempted", .integer status.attempted),
    ("last_started", optional (.string ∘ momentText) status.lastStarted),
    ("last_finished", optional (.string ∘ momentText) status.lastFinished),
    ("last_outcome", optional (.string ∘ Outcome.name) status.last),
    ("last_error", optional .string (status.last.bind Outcome.error?)),
    ("last_stats", optional (.object ∘ counterMembers) (status.last.bind Outcome.counters?))]

/-- The response to a request for the health, and what is reported about it. -/
def healthResponse (status : Status) (ping : Except PingFault Unit) : Response × List Notice :=
  let ready := ping.isOk
  (Response.ofJson 200 (.object [("status", .string (if ready then "ok" else "degraded")),
      ("store", .bool ready), ("index", statusValue status)]) [],
    match ping with
    | .ok _ => []
    | .error fault => [⟨.warning, "Health check could not reach the store: " ++ fault.message⟩])

end Typeahead.Service
