import Typeahead.Json.Printer
import Typeahead.Schedule.Indexer
import Typeahead.Service.Response

/-!
# A store in custody

A command holds the store that it has made until it closes it.  What it does with
the store is put together from pieces of work, each of which gives a value or
raises a fault (`Work`).  A single build waits for the store, builds the index,
reports a fault that is expected, closes the store whatever has come, and prints
the counters (`singleBuild`).  Keeping the index built ends by closing the store
as well (`keepBuilding`).
-/

namespace Typeahead.Command

open Typeahead.Catalog Typeahead.Config Typeahead.Index Typeahead.Json Typeahead.Schedule
open Typeahead.Service Typeahead.Store

set_option autoImplicit false

variable {σ β α γ : Type}

/-- The tasks that work on a store, and how often the store has been closed. -/
structure Custody (σ β : Type) where
  tasks : Supervisor σ β
  closings : Nat := 0

/-- A store that has just been made, with the tasks of an indexer. -/
def custodyOf (settings : Settings) (world : World) (store : σ) (now : Rat) : Custody σ β where
  tasks := indexer settings world store now

namespace Custody

/-- Closes the store. -/
def close (custody : Custody σ β) : Custody σ β :=
  { custody with closings := custody.closings + 1 }

/-- Reports a build that failed. -/
def reportFailure (custody : Custody σ β) (fault : RunFault) : Custody σ β :=
  let notice : Notice := ⟨.error, "Building the search index failed: " ++ fault.message⟩
  { custody with
    tasks := { custody.tasks with desk := custody.tasks.desk.report [notice] } }

/-- What is held. -/
def store (custody : Custody σ β) : σ := custody.tasks.desk.store

/-- What has been reported. -/
def notices (custody : Custody σ β) : List Notice := custody.tasks.notices

end Custody

/-- A run that failed in a way that is expected of catalogs and stores. -/
def isExpected : RunFault → Bool
  | .build (.source fault) => fault.isFetch
  | .build (.flush _) => true
  | _ => false

/-! ## Pieces of work -/

/-- Work on a store in custody.  It may need more steps than it has; when it ends, it gives a value
or raises a fault. -/
def Work (σ β α : Type) : Type := Custody σ β → Option (Except RunFault α × Custody σ β)

namespace Work

/-- Gives a value. -/
def give (value : α) : Work σ β α := fun custody => some (.ok value, custody)

/-- Goes on with the value that is given; a fault is passed on. -/
def andThen (first : Work σ β α) (next : α → Work σ β γ) : Work σ β γ := fun custody =>
  match first custody with
  | none => none
  | some (.error fault, after) => some (.error fault, after)
  | some (.ok value, after) => next value after

/-- Reports a fault that is expected of catalogs and stores, and then gives nothing. -/
def reporting (work : Work σ β α) : Work σ β (Option α) := fun custody =>
  match work custody with
  | none => none
  | some (.ok value, after) => some (.ok (some value), after)
  | some (.error fault, after) =>
      if isExpected fault then some (.ok none, after.reportFailure fault)
      else some (.error fault, after)

/-- Closes the store behind the work, whether it has given a value or raised a fault. -/
def thenClose (work : Work σ β α) : Work σ β α := fun custody =>
  (work custody).map fun ended => (ended.1, ended.2.close)

end Work

/-! ## Exits -/

/-- How a command exits: with a code, and with what it prints. -/
structure Exit where
  code : Nat := 0
  output : String := ""

/-- A build exits with its counters, if it has given any. -/
def exitOf : Option Counters → Exit
  | some counters => { output := indentedObject (counterMembers counters) ++ "\n" }
  | none => { code := 1 }

/-- Concludes an attempt to build: an expected fault is reported, and the store is closed before
anything is printed. -/
def concluding (attempt : Work σ β Counters) : Work σ β Exit :=
  attempt.reporting.thenClose.andThen fun counters => .give (exitOf counters)

/-- What came of a run.  One that ends without a word has been told to stop. -/
def outcomeOf : Result → Except RunFault Counters
  | .built counters => .ok counters
  | .failed fault => .error fault
  | _ => .error (.build .cancelled)

section Stores

variable [RankedStore σ β]

/-! ## Building once -/

/-- Waits until the store answers.  Pings that are refused are waited out; they raise nothing. -/
def awaitStore (steps : Nat) : Work σ β Unit := fun custody =>
  let waited := custody.tasks.waitForStore steps
  (waited.result? custody.tasks.tasks.length).map fun _ =>
    (.ok (), { custody with tasks := waited })

/-- Builds the index once. -/
def runBuild (steps : Nat) : Work σ β Counters := fun custody =>
  let run := custody.tasks.runOnce steps
  run.2.map fun result => (outcomeOf result, { custody with tasks := run.1 })

/-- Builds the index once in a store that has answered. -/
def attempt (steps : Nat) : Work σ β Counters :=
  (awaitStore steps).andThen fun _ => runBuild steps

/-- A single build. -/
def singleBuild (steps : Nat) : Work σ β Exit := concluding (attempt steps)

/-! ## Keeping the index built -/

/-- Keeps the index built until it is told to stop, after so many ticks. -/
def tend (steps ticks : Nat) : Work σ β Exit := fun custody =>
  some (.ok {}, { custody with
    tasks := (custody.tasks.start.runTicks ticks steps).stop steps })

/-- Keeps the index built, and closes the store at the end. -/
def keepBuilding (steps ticks : Nat) : Work σ β Exit := (tend steps ticks).thenClose

end Stores

end Typeahead.Command
