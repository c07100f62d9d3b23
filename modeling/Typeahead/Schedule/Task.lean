import Typeahead.Decimal.Shortest
import Typeahead.Schedule.Status
import Typeahead.Schedule.Ticker

/-!
# Tasks that keep the index built

A task waits until the store answers, builds the index, and builds it again at
every tick.  It is a machine that takes one step at a time; between two steps
other tasks may take theirs.  Each step says when the next one is due.  A task
that is told to stop does so at its next step, except that a build in progress
first closes its feed and is then recorded as failed.

Two shorter tasks are parts of this one: a single build, and the wait for the
store.
-/

namespace Typeahead.Schedule

open Typeahead.Catalog Typeahead.Decimal Typeahead.Index Typeahead.Store

set_option autoImplicit false

/-- How the index is kept built. -/
structure Plan where
  /-- the time from one rebuild to the next -/
  interval : Binary64
  /-- the time from one ping to the next -/
  poll : Rat
  /-- how many pairs trigger a flush -/
  batchSize : Int
  enumeration : Enumeration := Enumeration.ascending

/-- Why a run brought no counters. -/
inductive RunFault where
  /-- there was nothing to build from -/
  | noFeed (reason : String)
  | build (fault : BuildFault)
  deriving DecidableEq, Repr, Inhabited

/-- What is said about a run that brought no counters. -/
def RunFault.message : RunFault → String
  | .noFeed reason => reason
  | .build fault => fault.message

/-- What the tasks share. -/
structure Desk (σ : Type) where
  store : σ
  status : Status := {}
  now : Rat := 0
  /-- numbers the moments at which tasks fell asleep -/
  order : Nat := 1
  /-- how often a feed has been asked for -/
  calls : Nat := 0
  /-- what has been reported, and when -/
  journal : List (Rat × Notice) := []

namespace Desk

variable {σ : Type}

/-- Reports notices. -/
def report (desk : Desk σ) (notices : List Notice) : Desk σ :=
  { desk with journal := desk.journal ++ notices.map fun notice => (desk.now, notice) }

/-- What has been reported. -/
def notices (desk : Desk σ) : List Notice := desk.journal.map Prod.snd

/-- The clock is moved on to a time, never back. -/
def moved (desk : Desk σ) (time : Rat) : Desk σ := { desk with now := later desk.now time }

/-- Records the end of a build. -/
def record (desk : Desk σ) (outcome : Outcome) : Desk σ :=
  { desk with status := desk.status.finished desk.now outcome }

end Desk

/-- When a task takes its next step: at a time, and among tasks of one time in the order in which
they fell asleep. -/
structure Wake where
  time : Rat
  order : Nat
  deriving DecidableEq, Repr, Inhabited

/-- One wake comes before another. -/
def Wake.before (first second : Wake) : Bool :=
  first.time < second.time || (first.time == second.time && decide (first.order < second.order))

/-- What a task is there for. -/
inductive Role where
  /-- keeps the index built until it is stopped -/
  | keep
  /-- builds the index once -/
  | once
  /-- waits for the store -/
  | ready
  deriving DecidableEq, Repr, Inhabited

/-- What a task leaves when it is done. -/
inductive Result where
  | stopped
  | storeReady
  | built (counters : Counters)
  | failed (fault : RunFault)
  deriving DecidableEq, Repr, Inhabited

/-- Where a task stands. -/
inductive Point (β : Type) where
  /-- it will ping the store -/
  | polling
  /-- it will ask for a feed and build from it -/
  | opening (ticker : Option Ticker)
  | building (build : Build β) (ticker : Option Ticker)
  /-- it sleeps until a tick fires -/
  | ticking (ticker : Ticker)
  | done (result : Result)

/-- A task. -/
structure Task (β : Type) where
  role : Role
  point : Point β
  wake : Wake
  /-- it has been told to stop -/
  cancelled : Bool := false

/-- What a task leaves, if it is done. -/
def Task.result? {β : Type} (task : Task β) : Option Result :=
  match task.point with
  | .done result => some result
  | _ => none

section Steps

variable {σ β : Type} [RankedStore σ β]

/-- The task sleeps until a time. -/
def Task.sleep (desk : Desk σ) (task : Task β) (time : Rat) (point : Point β) :
    Desk σ × Task β :=
  ({ desk with order := desk.order + 1 }, { task with point, wake := ⟨time, desk.order⟩ })

/-- What a task does after a run: a single build is done, a keeper waits for its next tick. -/
def Task.afterRun (plan : Plan) (desk : Desk σ) (task : Task β) (ticker : Option Ticker)
    (outcome : Except RunFault Counters) : Desk σ × Task β :=
  match task.role with
  | .keep =>
      let desk := match outcome with
        | .ok _ => desk
        | .error fault =>
            desk.report [⟨.error, "Building the search index failed: " ++ fault.message⟩]
      let ticker := match ticker with
        | none => Ticker.start plan.interval.value desk.now
        | some ticker => ticker.next desk.now
      task.sleep desk (ticker.fireTime desk.now) (.ticking ticker)
  | _ =>
      (desk, { task with point := .done (match outcome with
        | .ok counters => .built counters
        | .error fault => .failed fault) })

/-- Asks for a feed and begins to build.  Without a feed there is no build whose end could be
recorded. -/
def Task.open (plan : Plan) (feeds : Nat → Except String Feed) (desk : Desk σ) (task : Task β)
    (ticker : Option Ticker) : Desk σ × Task β :=
  let asked := { desk with status := desk.status.started desk.now, calls := desk.calls + 1 }
  match feeds desk.calls with
  | .error reason => task.afterRun plan asked ticker (.error (.noFeed reason))
  | .ok feed =>
      match Build.start plan.enumeration asked.store plan.batchSize feed with
      | (notices, .error fault) =>
          task.afterRun plan ((asked.report notices).record (failure fault)) ticker
            (.error (.build fault))
      | (notices, .ok build) =>
          (asked.report notices, { task with point := .building build ticker })

/-- Goes on with a build, which may have ended. -/
def Task.continue (plan : Plan) (desk : Desk σ) (task : Task β) (build : Build β)
    (ticker : Option Ticker) : Desk σ × Task β :=
  match build.ending? with
  | none => (desk, { task with point := .building build ticker })
  | some ending =>
      let recorded := desk.record (outcomeOf ending)
      match ending with
      | .built counters => task.afterRun plan recorded ticker (.ok counters)
      | .failed .cancelled => (recorded, { task with point := .done .stopped })
      | .failed fault => task.afterRun plan recorded ticker (.error (.build fault))

/-- Pings the store. -/
def Task.poll (plan : Plan) (desk : Desk σ) (task : Task β) : Desk σ × Task β :=
  let ping := RankedStore.ping desk.store
  let pinged := { desk with store := ping.2 }
  match ping.1 with
  | .error fault =>
      task.sleep
        (pinged.report [⟨.info, "Waiting for the store to load... (" ++ fault.message ++ ")"⟩])
        (desk.now + plan.poll) .polling
  | .ok () =>
      match task.role with
      | .ready => (pinged, { task with point := .done .storeReady })
      | _ => (pinged, { task with point := .opening none })

/-- The step of a task that goes on with its work. -/
def Task.advance (plan : Plan) (feeds : Nat → Except String Feed) (desk : Desk σ)
    (task : Task β) : Desk σ × Task β :=
  match task.point with
  | .polling => task.poll plan desk
  | .opening ticker => task.open plan feeds desk ticker
  | .ticking ticker => (desk, { task with point := .opening (some ticker.fire) })
  | .building build ticker =>
      let next := build.step desk.store
      let desk := { desk with store := next.1 }.report next.2.2
      match build.pause? with
      | some seconds => task.sleep desk (desk.now + seconds) (.building next.2.1 ticker)
      | none => task.continue plan desk next.2.1 ticker
  | .done _ => (desk, task)

/-- The step of a task that has been told to stop. -/
def Task.stop (plan : Plan) (desk : Desk σ) (task : Task β) : Desk σ × Task β :=
  let heard := { task with cancelled := false }
  match task.point with
  | .building build ticker => heard.continue plan desk (build.cancel σ) ticker
  | .done _ => (desk, heard)
  | _ => (desk, { heard with point := .done .stopped })

/-- One step of a task. -/
def Task.step (plan : Plan) (feeds : Nat → Except String Feed) (desk : Desk σ) (task : Task β) :
    Desk σ × Task β :=
  if task.cancelled then task.stop plan desk else task.advance plan feeds desk

end Steps

end Typeahead.Schedule
