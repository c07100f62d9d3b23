import Typeahead.Text.Lines
import Typeahead.Text.Utf8
import Typeahead.Web.Percent

/-!
# Routes of the service

The service has two routes: the report on its health, and the suggestions for
the text behind a fixed path.  A path ends where it ends or at a line feed that
is its last character, and no other line feed may stand in it.  A path that
would have a route with a slash more or without its last slashes is sent there.
-/

namespace Typeahead.Service

open Typeahead.Text Typeahead.Web

set_option autoImplicit false

/-- A request. -/
structure Request where
  method : String
  /-- the path, still encoded, and what stands behind a question mark -/
  target : String
  /-- the name that the service is called by -/
  host : String
  deriving DecidableEq, Repr, Inhabited

/-- The decoded path of a request. -/
def Request.path (request : Request) : List Char :=
  percentDecodeText (request.target.toList.takeWhile (· != '?'))

/-- The query of a request, with its question mark if it is not empty. -/
def Request.query (request : Request) : List Char :=
  match request.target.toList.dropWhile (· != '?') with
  | ['?'] => []
  | query => query

/-- The routes. -/
inductive Route where
  | health
  | suggestions (typed : String)
  deriving DecidableEq, Repr, Inhabited

/-- The path of the report on the health. -/
def healthPath : List Char := ['/', 'h', 'e', 'a', 'l', 't', 'h']

/-- The path in front of every typed text. -/
def suggestionsPath : List Char := ['/', 'v', '1', '/']

/-- The route of a path. -/
def routeOf? (path : List Char) : Option Route :=
  let path := dropLastFeed path
  if path = healthPath then some .health
  else if suggestionsPath.isPrefixOf path then
    let typed := path.drop suggestionsPath.length
    if typed.contains '\n' then none else some (.suggestions (String.ofList typed))
  else none

/-- What is done about a request. -/
inductive Decision where
  | take (route : Route)
  /-- there is a route, but not for this method -/
  | refuse
  | redirect (location : String)
  | notFound
  deriving DecidableEq, Repr, Inhabited

/-- A path with a slash at its end, or without all slashes at its end. -/
def otherPath (path : List Char) : List Char :=
  if path.getLast? = some '/' then (path.reverse.dropWhile (· == '/')).reverse else path ++ ['/']

/-- The characters that stand for themselves in a location. -/
def isLocationSafe (c : Char) : Bool :=
  isUnreserved c || [':', '/', '%', '#', '?', '=', '@', '[', ']', '!', '$', '&', '\'', '(', ')',
    '*', '+', ',', ';'].contains c

/-- The address of a path of the service. -/
def locationOf (request : Request) (path : List Char) : String :=
  "http://" ++ String.ofList
    (percentEncode isLocationSafe (request.host.toList ++ path ++ request.query))

/-- Finds what is to be done about a request. -/
def Request.decide (request : Request) : Decision :=
  let path := request.path
  match routeOf? path with
  | some route => if request.method = "GET" then .take route else .refuse
  | none =>
      if path = ['/'] then .notFound
      else if (routeOf? (otherPath path)).isSome then .redirect (locationOf request (otherPath path))
      else .notFound

end Typeahead.Service
