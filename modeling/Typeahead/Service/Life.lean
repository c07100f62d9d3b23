import Typeahead.Schedule.Indexer
import Typeahead.Service.Response

/-!
# The life of the service

A service has one store, which the indexer writes and every request reads.  It
starts the indexer if the settings want it, answers requests, and stops the
indexer at its end.  A store that it has made itself is closed then, and one
that it was given is left open.
-/

namespace Typeahead

open Typeahead.Catalog Typeahead.Config Typeahead.Index Typeahead.Schedule Typeahead.Store

set_option autoImplicit false

/-- A service. -/
structure Service (σ β : Type) where
  settings : Settings
  supervisor : Supervisor σ β
  ownsStore : Bool
  /-- how often the store has been closed -/
  closings : Nat := 0

namespace Service

variable {σ β : Type}

/-- A service before it starts. -/
def create (settings : Settings) (world : World) (store : σ) (ownsStore : Bool) (now : Rat) :
    Service σ β :=
  { settings, supervisor := indexer settings world store now, ownsStore }

/-- How the service gives suggestions. -/
def lookup (service : Service σ β) : Lookup :=
  { limit := service.settings.queryLimit, maxAge := service.settings.cacheMaxAge }

/-- Reports notices. -/
def report (service : Service σ β) (notices : List Notice) : Service σ β :=
  { service with supervisor :=
    { service.supervisor with desk := service.supervisor.desk.report notices } }

/-- The service starts. -/
def start (service : Service σ β) : Service σ β :=
  let started := service.report [⟨.info, "Starting names-search-service"⟩]
  if service.settings.runIndexer then { started with supervisor := started.supervisor.start }
  else started

section Steps

variable [RankedStore σ β]

/-- Lets the indexer build the index for the first time, in at most so many steps. -/
def settle (steps : Nat) (service : Service σ β) : Service σ β :=
  { service with supervisor := service.supervisor.runTicks 0 steps }

/-- Answers a request for a route. -/
def take (service : Service σ β) : Route → Response × Service σ β
  | .health =>
      let desk := service.supervisor.desk
      let ping := RankedStore.ping desk.store
      let answer := healthResponse desk.status ping.1
      let pinged := { service with supervisor :=
        { service.supervisor with desk := { desk with store := ping.2 } } }
      (answer.1, pinged.report answer.2)
  | .suggestions typed =>
      let found := service.lookup.suggestions service.supervisor.desk.store typed
      let answer := suggestionsResponse service.lookup typed found
      (answer.1, service.report answer.2)

/-- Answers a request. -/
def respond (service : Service σ β) (request : Request) : Response × Service σ β :=
  match request.decide with
  | .take route => service.take route
  | .refuse => (Response.methodNotAllowed, service)
  | .redirect location => (Response.redirect location, service)
  | .notFound => (Response.notFound, service)

/-- Answers requests in order. -/
def respondAll (service : Service σ β) : List Request → List Response × Service σ β
  | [] => ([], service)
  | request :: requests =>
      let first := service.respond request
      let rest := first.2.respondAll requests
      (first.1 :: rest.1, rest.2)

/-- The service stops: first its indexer, then its store. -/
def stop (steps : Nat) (service : Service σ β) : Service σ β :=
  { service with
    supervisor := service.supervisor.stop steps
    closings := service.closings + if service.ownsStore then 1 else 0 }

end Steps

end Service

end Typeahead
