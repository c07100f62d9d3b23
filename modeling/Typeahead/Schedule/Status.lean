import Typeahead.Index.Build

/-!
# The status of the builds

The status tells whether a build is running, how many have been attempted, and
how the last one that ended went.  While a build is running, the outcome of the
one before it stays to be seen.
-/

namespace Typeahead.Schedule

open Typeahead.Catalog Typeahead.Index

set_option autoImplicit false

/-- How a build that has ended went. -/
inductive Outcome where
  | succeeded (counters : Counters)
  | failed (error : String) (counters : Option Counters)
  deriving DecidableEq, Repr, Inhabited

/-- The name of an outcome. -/
def Outcome.name : Outcome → String
  | .succeeded _ => "succeeded"
  | .failed _ _ => "failed"

/-- What went wrong. -/
def Outcome.error? : Outcome → Option String
  | .succeeded _ => none
  | .failed error _ => some error

/-- The counters of the build. -/
def Outcome.counters? : Outcome → Option Counters
  | .succeeded counters => some counters
  | .failed _ counters => counters

/-- The status of the builds. -/
structure Status where
  /-- a build is running -/
  building : Bool := false
  attempted : Nat := 0
  lastStarted : Option Rat := none
  lastFinished : Option Rat := none
  last : Option Outcome := none
  deriving DecidableEq, Repr, Inhabited

namespace Status

/-- The name of the state. -/
def stateName (status : Status) : String :=
  if status.building then "building" else "idle"

/-- A build starts. -/
def started (now : Rat) (status : Status) : Status :=
  { status with building := true, attempted := status.attempted + 1, lastStarted := some now }

/-- A build ends. -/
def finished (now : Rat) (outcome : Outcome) (status : Status) : Status :=
  { status with building := false, lastFinished := some now, last := some outcome }

end Status

/-- The name of the kind of a failure. -/
def faultName : BuildFault → String
  | .size _ => "ValueError"
  | .source (.web _ (.badAddress _)) => "InvalidURL"
  | .source (.file _ (.opening .nulInPath)) => "ValueError"
  | .source (.crashed _) => "RuntimeError"
  | .source _ => "FetchError"
  | .flush _ => "FlushError"
  | .cancelled => "CancelledError"

/-- What the status says about a failure: its message, or its kind if the message is empty. -/
def describe (kind message : String) : String :=
  if message.isEmpty then kind else message

/-- The outcome of a build that failed. -/
def failure (fault : BuildFault) : Outcome :=
  .failed (describe (faultName fault) fault.message) none

/-- The outcome of a build. -/
def outcomeOf : Ending → Outcome
  | .built counters => .succeeded counters
  | .failed fault => failure fault

end Typeahead.Schedule
