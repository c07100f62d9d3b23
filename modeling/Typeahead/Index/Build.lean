import Typeahead.Catalog.Pass
import Typeahead.Index.Writer

/-!
# Building the index

A build takes the names of a feed one by one, queues the pairs of each name and
flushes the batch between two names when it is full.  It is described as a
machine that takes one step at a time, so that other work on the same store can
come between any two steps.  Whatever ends a build, the pairs that are still
queued are dropped.
-/

namespace Typeahead.Index

open Typeahead.Catalog Typeahead.Store

set_option autoImplicit false

/-- The counters of a build. -/
structure Counters where
  namesSeen : Nat := 0
  namesIndexed : Nat := 0
  pairsWritten : Nat := 0
  batchesFlushed : Nat := 0
  malformed : Nat := 0
  deriving DecidableEq, Repr, Inhabited

/-- Why a build failed. -/
inductive BuildFault where
  | size (fault : SizeFault)
  | source (fault : SourceFault)
  | flush (fault : FlushFault)
  | cancelled
  deriving DecidableEq, Repr, Inhabited

/-- What is said about a build that failed; a cancelled one has nothing to say. -/
def BuildFault.message : BuildFault → String
  | .size fault => fault.message
  | .source fault => fault.message
  | .flush fault => fault.message
  | .cancelled => ""

/-- How a build ended. -/
inductive Ending where
  | built (counters : Counters)
  | failed (fault : BuildFault)
  deriving DecidableEq, Repr, Inhabited

/-- The notice with which a build begins. -/
def beginNotice : Notice := ⟨.info, "Started building the search index"⟩

/-- The notice about a build that succeeded. -/
def Counters.notice (counters : Counters) : Notice :=
  ⟨.info, "The search index is successfully built: names_seen=" ++ toString counters.namesSeen ++
    ", names_indexed=" ++ toString counters.namesIndexed ++
    ", pairs_written=" ++ toString counters.pairsWritten ++
    ", batches=" ++ toString counters.batchesFlushed ++
    ", malformed=" ++ toString counters.malformed⟩

/-- What a build does next. -/
inductive Stage where
  /-- takes the next signal of the feed -/
  | reading
  /-- flushes the full batch -/
  | flushing
  /-- flushes what is left at the end of the feed -/
  | flushingRest
  /-- closes a feed that was broken off, in so many steps -/
  | closing (steps : Nat) (fault : BuildFault)
  | finished (ending : Ending)
  deriving DecidableEq, Repr, Inhabited

/-- A build between two steps. -/
structure Build (β : Type) where
  enumeration : Enumeration
  writer : Writer β
  pass : PassState := {}
  /-- what the feed has still to bring -/
  signals : List Signal
  failure : Option SourceFault
  closing : Nat
  namesSeen : Nat := 0
  namesIndexed : Nat := 0
  stage : Stage := .reading

namespace Build

variable {σ β : Type} [RankedStore σ β]

/-- A build of a feed and what it reports at its beginning. -/
def start (enumeration : Enumeration) (store : σ) (batchSize : Int) (feed : Feed) :
    List Notice × Except BuildFault (Build β) :=
  match Writer.open? store batchSize with
  | .error fault => ([beginNotice], .error (.size fault))
  | .ok writer =>
      (beginNotice :: feed.opening.toList,
        .ok { enumeration, writer, signals := feed.signals, failure := feed.failure,
              closing := feed.closing })

/-- The counters of a build that has written all it had. -/
def counters (build : Build β) : Counters :=
  { namesSeen := build.namesSeen
    namesIndexed := build.namesIndexed
    pairsWritten := build.writer.pairsWritten
    batchesFlushed := build.writer.batchesFlushed
    malformed := build.pass.malformed }

variable (σ) in
/-- Ends a build: the queue is dropped. -/
def finish (build : Build β) (ending : Ending) : Build β :=
  { build with writer := build.writer.close σ, stage := .finished ending }

variable (σ) in
/-- Breaks a build off: the feed is closed first. -/
def breakOff (build : Build β) (fault : BuildFault) : Build β :=
  match build.closing with
  | 0 => build.finish σ (.failed fault)
  | steps + 1 => { build with stage := .closing steps fault }

variable (σ) in
/-- Takes a name. -/
def takeName (build : Build β) (name : String) : Build β :=
  let counted := { build with namesSeen := build.namesSeen + 1 }
  let pairs := build.enumeration.pairs name
  if pairs.isEmpty then counted
  else
    let writer := build.writer.addAll σ pairs
    { counted with namesIndexed := build.namesIndexed + 1, writer,
                   stage := if writer.isFull then .flushing else .reading }

variable (σ) in
/-- Takes the next signal of the feed. -/
def read (build : Build β) : Build β × List Notice :=
  match build.signals with
  | [] =>
      match build.failure with
      | some fault => (build.finish σ (.failed (.source fault)), [])
      | none => ({ build with stage := .flushingRest }, [])
  | .pause _ :: signals => ({ build with signals }, [])
  | .line text :: signals =>
      let next := build.pass.line text
      let build := { build with signals, pass := next.1 }
      (match next.2.name with
        | some name => build.takeName σ name
        | none => build, next.2.notices)

/-- One step of a build. -/
def step (store : σ) (build : Build β) : σ × Build β × List Notice :=
  match build.stage with
  | .reading => (store, build.read σ)
  | .flushing =>
      let run := build.writer.flush store
      let flushed := { build with writer := run.2.2 }
      match run.1 with
      | .ok _ => (run.2.1, { flushed with stage := .reading }, [])
      | .error fault => (run.2.1, flushed.breakOff σ (.flush fault), [])
  | .flushingRest =>
      let run := build.writer.flushRemaining store
      let flushed := { build with writer := run.2.2 }
      match run.1 with
      | .ok _ =>
          (run.2.1, flushed.finish σ (.built flushed.counters), [flushed.counters.notice])
      | .error fault => (run.2.1, flushed.finish σ (.failed (.flush fault)), [])
  | .closing 0 fault => (store, build.finish σ (.failed fault), [])
  | .closing (steps + 1) fault => (store, { build with stage := .closing steps fault }, [])
  | .finished _ => (store, build, [])

variable (σ) in
/-- Cancels a build at the place where it stands.  One that is reading or flushing closes its feed
first; one that has read its whole feed has nothing to close. -/
def cancel (build : Build β) : Build β :=
  match build.stage with
  | .reading => build.breakOff σ .cancelled
  | .flushing => build.breakOff σ .cancelled
  | .flushingRest => build.finish σ (.failed .cancelled)
  | .closing steps _ => { build with stage := .closing steps .cancelled }
  | .finished _ => build

/-- How the build ended, if it has. -/
def ending? (build : Build β) : Option Ending :=
  match build.stage with
  | .finished ending => some ending
  | _ => none

/-- How long the build waits before its next step. -/
def pause? (build : Build β) : Option Rat :=
  match build.stage, build.signals with
  | .reading, .pause seconds :: _ => some seconds
  | _, _ => none

/-- A bound on the steps that are left: each signal is read and can be followed by a flush. -/
def bound (build : Build β) : Nat :=
  2 * build.signals.length + build.closing + 4

/-- Takes a number of steps. -/
def runFor : Nat → σ → Build β → σ × Build β × List Notice
  | 0, store, build => (store, build, [])
  | steps + 1, store, build =>
      match build.ending? with
      | some _ => (store, build, [])
      | none =>
          let next := build.step store
          let rest := runFor steps next.1 next.2.1
          (rest.1, rest.2.1, next.2.2 ++ rest.2.2)

/-- Runs a build to its end without looking at the clock. -/
def run (store : σ) (build : Build β) : σ × Build β × List Notice :=
  runFor build.bound store build

end Build

/-- What a whole build leaves. -/
structure BuildResult (σ : Type) where
  store : σ
  ending : Ending
  notices : List Notice

/-- Builds the index from a feed. -/
def buildIndex {σ β : Type} [RankedStore σ β] (enumeration : Enumeration) (store : σ)
    (batchSize : Int) (feed : Feed) : BuildResult σ :=
  match Build.start enumeration store batchSize feed with
  | (notices, .error fault) => ⟨store, .failed fault, notices⟩
  | (notices, .ok build) =>
      let run := build.run store
      ⟨run.1, run.2.1.ending?.getD (.failed .cancelled), notices ++ run.2.2⟩

end Typeahead.Index
