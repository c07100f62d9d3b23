import Typeahead.Command.Custody
import Typeahead.Command.Line
import Typeahead.Config.Load
import Typeahead.Config.StoreChoice
import Typeahead.Store.Memory
import Typeahead.Store.Server

/-!
# Running a command

Every command loads the settings first and then makes the store that they
choose.  Building once prints the counters of the build; a build that fails in
an expected way is reported and changes the exit code.  What a command leaves is
what its work on the store leaves, which closes the store at its end.
-/

namespace Typeahead.Command

open Typeahead.Catalog Typeahead.Config Typeahead.Schedule Typeahead.Store

set_option autoImplicit false

/-- A run of a command that nobody expected to fail. -/
inductive Escape where
  | settings (fault : LoadFault)
  | address (fault : ServerAddressFault)
  | build (fault : RunFault)
  deriving DecidableEq, Repr, Inhabited

/-- What is said about a run that nobody expected to fail. -/
def Escape.message : Escape → String
  | .settings fault => fault.message
  | .address fault => fault.message
  | .build fault => fault.message

/-- What a run of a command leaves. -/
structure Report where
  /-- the exit code, or what went wrong where nobody expected it -/
  code : Except Escape Nat := .ok 0
  output : String := ""
  errors : String := ""
  notices : List Notice := []
  /-- the settings of the service that is to be run -/
  served : Option Settings := none

/-- The report about an exit, or about a fault that escapes. -/
def reportOfExit (exit : Except RunFault Exit) (notices : List Notice) : Report :=
  match exit with
  | .ok exit => { code := .ok exit.code, output := exit.output, notices }
  | .error fault => { code := .error (.build fault), notices }

/-! ## Working on a store -/

/-- What a command leaves of its store. -/
structure StoreRun (σ : Type) where
  report : Report
  store : σ
  /-- how often the store has been closed -/
  closings : Nat

/-- What a command leaves that has ended its work on a store. -/
def storeRunOfWork {σ β : Type} (ended : Except RunFault Exit × Custody σ β) : StoreRun σ where
  report := reportOfExit ended.1 ended.2.notices
  store := ended.2.store
  closings := ended.2.closings

section Stores

variable {σ β : Type} [RankedStore σ β]

/-- Waits for the store and builds the index once.  There is no run to report if the store has not
answered within so many steps. -/
def buildOnce (steps : Nat) (settings : Settings) (world : World) (store : σ) (now : Rat) :
    Option (StoreRun σ) :=
  (singleBuild steps (custodyOf settings world store now)).map storeRunOfWork

/-- Keeps the index built until it is told to stop, after so many ticks. -/
def keepBuilt (steps ticks : Nat) (settings : Settings) (world : World) (store : σ) (now : Rat) :
    Option (StoreRun σ) :=
  (keepBuilding steps ticks (custodyOf settings world store now)).map storeRunOfWork

/-- Runs a command that needs the store. -/
def runOnStore (command : Command) (steps ticks : Nat) (settings : Settings) (world : World)
    (store : σ) (now : Rat) : Option Report :=
  match command with
  | .serve => some { served := some settings }
  | .index => (keepBuilt steps ticks settings world store now).map StoreRun.report
  | .build => (buildOnce steps settings world store now).map StoreRun.report

end Stores

/-! ## Running -/

/-- What a command is run in. -/
structure Context where
  surroundings : Surroundings
  network : Web.Network := {}
  /-- the server of ranked sets -/
  server : ServerStore := { ServerStore.empty with outage := some "connection refused" }
  /-- after how many ticks the index is not built any more -/
  ticks : Nat := 0
  now : Rat := 0

/-- What commands can reach. -/
def Context.world (context : Context) : World :=
  { files := context.surroundings.files, homes := context.surroundings.homes,
    network := context.network }

/-- The report about settings that could not be loaded. -/
def reportOfLoad (fault : LoadFault) : Report :=
  if fault.isConfiguration then
    { code := .ok 2, errors := "Error: " ++ fault.message ++ "\n" }
  else { code := .error (.settings fault) }

/-- Runs a command, in at most so many steps of its tasks. -/
def Invocation.run (invocation : Invocation) (context : Context) (steps : Nat) : Option Report :=
  match load context.surroundings invocation.overrides with
  | .error fault => some (reportOfLoad fault)
  | .ok settings =>
      match settings.storeChoice with
      | .error fault => some { code := .error (.address fault) }
      | .ok .memory =>
          runOnStore invocation.command steps context.ticks settings context.world
            MemoryStore.empty context.now
      | .ok (.server _ _ _) =>
          runOnStore invocation.command steps context.ticks settings context.world
            context.server context.now

end Typeahead.Command
