import Typeahead.Index.Build

/-!
# What one step of a build can do

`Move` lists the ways in which a build gets from one state to the next, and
every step is one of them (`move_step`).  A build that is not over comes closer
to its end with each step (`Move.stepsLeft_lt`), so running it leads to its end
(`exists_stage_run`).
-/

namespace Typeahead.Index.Build

open Typeahead.Catalog Typeahead.Store

set_option autoImplicit false

variable {σ β : Type} [RankedStore σ β]

/-- The ways of getting from one state of a build to the next. -/
inductive Move : σ → Build β → σ → Build β → Prop where
  /-- nothing comes -/
  | pause {store : σ} {build : Build β} {seconds : Rat} {signals : List Signal}
      (stage : build.stage = .reading) (next : build.signals = .pause seconds :: signals) :
      Move store build store { build with signals }
  /-- a line without a name -/
  | skip {store : σ} {build : Build β} {text : String} {signals : List Signal}
      (stage : build.stage = .reading) (next : build.signals = .line text :: signals)
      (nothing : (build.pass.line text).2.name = none) :
      Move store build store { build with signals, pass := (build.pass.line text).1 }
  /-- a name without keys -/
  | ignore {store : σ} {build : Build β} {text name : String} {signals : List Signal}
      (stage : build.stage = .reading) (next : build.signals = .line text :: signals)
      (found : (build.pass.line text).2.name = some name)
      (short : build.enumeration.pairs name = []) :
      Move store build store
        { build with signals, pass := (build.pass.line text).1, namesSeen := build.namesSeen + 1 }
  /-- a name with keys -/
  | queue {store : σ} {build : Build β} {text name : String} {signals : List Signal}
      (stage : build.stage = .reading) (next : build.signals = .line text :: signals)
      (found : (build.pass.line text).2.name = some name)
      (long : build.enumeration.pairs name ≠ []) :
      Move store build store
        { build with
          signals, pass := (build.pass.line text).1, namesSeen := build.namesSeen + 1
          namesIndexed := build.namesIndexed + 1
          writer := build.writer.addAll σ (build.enumeration.pairs name)
          stage := if (build.writer.addAll σ (build.enumeration.pairs name)).isFull then .flushing
            else .reading }
  /-- the feed is over -/
  | endFeed {store : σ} {build : Build β}
      (stage : build.stage = .reading) (ended : build.signals = []) (whole : build.failure = none) :
      Move store build store { build with stage := .flushingRest }
  /-- the feed fails -/
  | failFeed {store : σ} {build : Build β} {fault : SourceFault}
      (stage : build.stage = .reading) (ended : build.signals = [])
      (fails : build.failure = some fault) :
      Move store build store (build.finish σ (.failed (.source fault)))
  /-- a full batch is flushed -/
  | flush {store : σ} {build : Build β}
      (stage : build.stage = .flushing) (succeeded : (build.writer.flush store).1 = .ok ()) :
      Move store build (build.writer.flush store).2.1
        { build with writer := (build.writer.flush store).2.2, stage := .reading }
  /-- a full batch is not flushed -/
  | failFlush {store : σ} {build : Build β} {fault : FlushFault}
      (stage : build.stage = .flushing) (failed : (build.writer.flush store).1 = .error fault) :
      Move store build (build.writer.flush store).2.1
        (breakOff σ { build with writer := (build.writer.flush store).2.2 } (.flush fault))
  /-- nothing is left to be flushed -/
  | endEmpty {store : σ} {build : Build β}
      (stage : build.stage = .flushingRest) (empty : build.writer.pending = 0) :
      Move store build store (build.finish σ (.built build.counters))
  /-- what is left is flushed -/
  | flushRest {store : σ} {build : Build β}
      (stage : build.stage = .flushingRest) (some : build.writer.pending ≠ 0)
      (succeeded : (build.writer.flush store).1 = .ok ()) :
      Move store build (build.writer.flush store).2.1
        (finish σ { build with writer := (build.writer.flush store).2.2 }
          (.built (counters { build with writer := (build.writer.flush store).2.2 })))
  /-- what is left is not flushed -/
  | failRest {store : σ} {build : Build β} {fault : FlushFault}
      (stage : build.stage = .flushingRest) (some : build.writer.pending ≠ 0)
      (failed : (build.writer.flush store).1 = .error fault) :
      Move store build (build.writer.flush store).2.1
        (finish σ { build with writer := (build.writer.flush store).2.2 } (.failed (.flush fault)))
  /-- a feed that was broken off is closed further -/
  | close {store : σ} {build : Build β} {steps : Nat} {fault : BuildFault}
      (stage : build.stage = .closing (steps + 1) fault) :
      Move store build store { build with stage := .closing steps fault }
  /-- a feed that was broken off is closed -/
  | closed {store : σ} {build : Build β} {fault : BuildFault}
      (stage : build.stage = .closing 0 fault) :
      Move store build store (build.finish σ (.failed fault))
  /-- the build is over -/
  | rest {store : σ} {build : Build β} {ending : Ending}
      (stage : build.stage = .finished ending) : Move store build store build

/-- Reading is one of the moves. -/
theorem move_read (store : σ) {build : Build β} (stage : build.stage = .reading) :
    Move store build store (Build.read σ build).1 := by
  cases next : build.signals with
  | nil =>
      cases failure : build.failure with
      | none =>
          have ended : Build.read σ build = ({ build with stage := .flushingRest }, []) := by
            simp only [Build.read, next, failure]
          rw [ended]
          exact .endFeed stage next failure
      | some fault =>
          simp only [Build.read, next, failure]
          exact .failFeed stage next failure
  | cons signal signals =>
      cases signal with
      | pause seconds =>
          simp only [Build.read, next]
          exact .pause stage next
      | line text =>
          cases found : (build.pass.line text).2.name with
          | none =>
              simp only [Build.read, next, found]
              exact .skip stage next found
          | some name =>
              by_cases short : build.enumeration.pairs name = []
              · simp only [Build.read, next, found, takeName, List.isEmpty_iff.mpr short, if_true]
                exact .ignore stage next found short
              · simp only [Build.read, next, found, takeName, List.isEmpty_eq_false_iff.mpr short,
                  Bool.false_eq_true, if_false]
                exact .queue stage next found short

/-- **Every step is one of the moves.** -/
theorem move_step (store : σ) (build : Build β) :
    Move store build (build.step store).1 (build.step store).2.1 := by
  cases stage : build.stage with
  | reading =>
      simp only [step, stage]
      exact move_read store stage
  | flushing =>
      cases flushed : (build.writer.flush store).1 with
      | ok _ =>
          simp only [step, stage, flushed]
          exact .flush stage flushed
      | error fault =>
          simp only [step, stage, flushed]
          exact .failFlush stage flushed
  | flushingRest =>
      by_cases empty : build.writer.pending = 0
      · simp only [step, stage, Writer.flushRemaining, empty, if_true]
        exact .endEmpty stage empty
      · cases flushed : (build.writer.flush store).1 with
        | ok _ =>
            simp only [step, stage, Writer.flushRemaining, empty, if_false, flushed, Except.map]
            exact .flushRest stage empty flushed
        | error fault =>
            simp only [step, stage, Writer.flushRemaining, empty, if_false, flushed, Except.map]
            exact .failRest stage empty flushed
  | closing steps fault =>
      cases steps with
      | zero =>
          simp only [step, stage]
          exact .closed stage
      | succ steps =>
          simp only [step, stage]
          exact .close stage
  | finished ending =>
      simp only [step, stage]
      exact .rest stage

/-! ## The way to the end -/

@[simp] theorem stage_finish (build : Build β) (ending : Ending) :
    (build.finish σ ending).stage = .finished ending := rfl

/-- A bound on the steps that are left in a stage, with so many steps to come from the feed. -/
def stepsLeftIn (ahead : Nat) : Stage → Nat
  | .reading => ahead + 2
  | .flushing => ahead + 3
  | .flushingRest => 1
  | .closing steps _ => steps + 1
  | .finished _ => 0

/-- A bound on the steps to the end of a build. -/
def stepsLeft (build : Build β) : Nat :=
  stepsLeftIn (2 * build.signals.length + build.closing) build.stage

theorem stepsLeft_breakOff_le (build : Build β) (fault : BuildFault) :
    (build.breakOff σ fault).stepsLeft ≤ build.closing := by
  cases closing : build.closing with
  | zero => simp [breakOff, closing, stepsLeft, stepsLeftIn]
  | succ steps => simp [breakOff, closing, stepsLeft, stepsLeftIn]

/-- **A build that is not over comes closer to its end.** -/
theorem Move.stepsLeft_lt {store after : σ} {build next : Build β}
    (move : Move store build after next) (going : build.ending? = none) :
    next.stepsLeft < build.stepsLeft := by
  cases move with
  | pause stage signals => simp [stepsLeft, stepsLeftIn, stage, signals]
  | skip stage signals _ => simp [stepsLeft, stepsLeftIn, stage, signals]
  | ignore stage signals _ _ => simp [stepsLeft, stepsLeftIn, stage, signals]
  | queue stage signals _ _ =>
      simp only [stepsLeft, stage, signals, List.length_cons]
      split
      next =>
        simp only [stepsLeftIn]
        omega
      next =>
        simp only [stepsLeftIn]
        omega
  | endFeed stage _ _ => simp [stepsLeft, stepsLeftIn, stage]
  | failFeed stage _ _ => simp [stepsLeft, stepsLeftIn, stage]
  | flush stage _ => simp [stepsLeft, stepsLeftIn, stage]
  | failFlush stage _ =>
      refine Nat.lt_of_le_of_lt (stepsLeft_breakOff_le _ _) ?_
      simp only [stepsLeft, stepsLeftIn, stage]
      omega
  | endEmpty stage _ => simp [stepsLeft, stepsLeftIn, stage]
  | flushRest stage _ _ => simp [stepsLeft, stepsLeftIn, stage]
  | failRest stage _ _ => simp [stepsLeft, stepsLeftIn, stage]
  | close stage => simp [stepsLeft, stepsLeftIn, stage]
  | closed stage => simp [stepsLeft, stepsLeftIn, stage]
  | rest stage => simp [ending?, stage] at going

/-- A build is over when as many steps have been taken as were left. -/
theorem exists_stage_runFor {steps : Nat} (store : σ) {build : Build β}
    (enough : build.stepsLeft ≤ steps) :
    ∃ ending, (runFor steps store build).2.1.stage = .finished ending := by
  induction steps generalizing store build with
  | zero =>
      cases stage : build.stage with
      | finished ending => exact ⟨ending, stage⟩
      | _ => simp [stepsLeft, stepsLeftIn, stage] at enough
  | succ steps inductionHypothesis =>
      cases ended : build.ending? with
      | some ending =>
          simp only [runFor, ended]
          cases stage : build.stage with
          | finished ending => exact ⟨ending, rfl⟩
          | _ => simp [ending?, stage] at ended
      | none =>
          have closer := (move_step store build).stepsLeft_lt ended
          simp only [runFor, ended]
          exact inductionHypothesis _ (by omega)

/-- **A build that is run comes to its end.** -/
theorem exists_stage_run (store : σ) {build : Build β} (stage : build.stage = .reading) :
    ∃ ending, (build.run store).2.1.stage = .finished ending := by
  apply exists_stage_runFor
  simp only [stepsLeft, stepsLeftIn, stage, bound]
  omega

end Typeahead.Index.Build
