import Typeahead.Catalog.Location
import Typeahead.Config.Settings
import Typeahead.Schedule.Supervisor

/-!
# The indexer that settings describe

The indexer keeps the index of one store built from one catalog.  The settings
say where the catalog lies, how long to wait between two pings and between two
rebuilds, and how many pairs trigger a flush.
-/

namespace Typeahead.Schedule

open Typeahead.Catalog Typeahead.Config Typeahead.Index Typeahead.Store

set_option autoImplicit false

/-- How settings want the index to be kept built. -/
def planOf (settings : Settings) : Plan :=
  { interval := settings.rebuildInterval
    poll := settings.readinessPoll.value
    batchSize := settings.batchSize }

/-- The feed of the catalog, read afresh at every call. -/
def catalogFeeds (settings : Settings) (world : World) (_call : Nat) : Except String Feed :=
  match Location.ofText world.homes settings.catalog with
  | .ok location => .ok (location.feed world)
  | .error fault => .error fault.message

/-- The indexer of a store. -/
def indexer {σ β : Type} (settings : Settings) (world : World) (store : σ) (now : Rat) :
    Supervisor σ β :=
  { plan := planOf settings
    feeds := catalogFeeds settings world
    desk := { store, now } }

namespace Supervisor

variable {σ β : Type}

/-- The task that keeps the index built sleeps after at least so many ticks, or there is none. -/
def hasTicked (supervisor : Supervisor σ β) (ticks : Nat) : Bool :=
  match supervisor.current.bind supervisor.task? with
  | none => true
  | some task =>
      match task.point with
      | .ticking ticker => decide (ticks ≤ ticker.ticks)
      | .done _ => true
      | _ => false

/-- Runs the tasks until the index has been built at first and after so many ticks, in at most so
many steps. -/
def runTicks [RankedStore σ β] (ticks : Nat) : Nat → Supervisor σ β → Supervisor σ β
  | 0, supervisor => supervisor
  | steps + 1, supervisor =>
      if supervisor.hasTicked ticks then supervisor
      else
        match supervisor.first? with
        | some (place, wake) => runTicks ticks steps ((supervisor.moveClock wake.time).stepTask place)
        | none => supervisor

/-- What has been reported. -/
def notices (supervisor : Supervisor σ β) : List Notice :=
  supervisor.desk.notices

end Supervisor

end Typeahead.Schedule
