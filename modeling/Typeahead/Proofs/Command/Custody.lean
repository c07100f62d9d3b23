import Typeahead.Command.Run
import Typeahead.Proofs.Schedule.Single

/-!
# How often a store is closed

Closing a store behind a piece of work adds one closing on every way out of it
(`Work.Closes.thenClose`), and no other piece of a command closes the store.  So a
single build closes its store once, and so does keeping the index built
(**`closes_singleBuild`**, `closes_keepBuilding`).  What a single build leaves and
reports is told by what its attempt to build comes to (`concluding_eq`).
-/

namespace Typeahead.Command

open Typeahead.Index Typeahead.Schedule Typeahead.Store

set_option autoImplicit false

variable {σ β α γ : Type}

namespace Custody

section Fields

variable (custody : Custody σ β) (fault : RunFault)

@[simp]
theorem closings_close : custody.close.closings = custody.closings + 1 := rfl

@[simp]
theorem closings_reportFailure : (custody.reportFailure fault).closings = custody.closings := rfl

@[simp]
theorem store_close : custody.close.store = custody.store := rfl

@[simp]
theorem store_reportFailure : (custody.reportFailure fault).store = custody.store := rfl

@[simp]
theorem notices_close : custody.close.notices = custody.notices := rfl

@[simp]
theorem notices_reportFailure :
    (custody.reportFailure fault).notices =
      custody.notices ++ [⟨.error, "Building the search index failed: " ++ fault.message⟩] :=
  Desk.notices_report _ _

end Fields

end Custody

/-! ## Pieces of work -/

namespace Work

/-- Every way out of the work has closed the store so many times. -/
def Closes (work : Work σ β α) (times : Nat) : Prop :=
  ∀ custody outcome after, work custody = some (outcome, after) →
    after.closings = custody.closings + times

theorem closes_give (value : α) : (give value : Work σ β α).Closes 0 := by
  rintro custody outcome after ⟨⟩
  rfl

variable {work : Work σ β α} {times : Nat}

/-- Work that goes on without closing has closed the store as often as its first part, also where
this part raises a fault. -/
theorem Closes.andThen (closes : work.Closes times) {next : α → Work σ β γ}
    (keeps : ∀ value, (next value).Closes 0) : (work.andThen next).Closes times := by
  intro custody outcome after ran
  rw [Work.andThen] at ran
  split at ran
  next => exact nomatch ran
  next fault left ended =>
    obtain ⟨-, rfl⟩ := Prod.mk.inj (Option.some.inj ran)
    exact closes _ _ _ ended
  next value left ended => exact (keeps value _ _ _ ran).trans (closes _ _ _ ended)

theorem Closes.reporting (closes : work.Closes times) : work.reporting.Closes times := by
  intro custody outcome after ran
  rw [Work.reporting] at ran
  split at ran
  next => exact nomatch ran
  next value left ended =>
    obtain ⟨-, rfl⟩ := Prod.mk.inj (Option.some.inj ran)
    exact closes _ _ _ ended
  next fault left ended =>
    have closed := closes _ _ _ ended
    split at ran
    next =>
      obtain ⟨-, rfl⟩ := Prod.mk.inj (Option.some.inj ran)
      exact closed
    next =>
      obtain ⟨-, rfl⟩ := Prod.mk.inj (Option.some.inj ran)
      exact closed

/-- **A store that is closed behind the work has been closed once more on every way out.** -/
theorem Closes.thenClose (closes : work.Closes times) : work.thenClose.Closes (times + 1) := by
  intro custody outcome after ran
  obtain ⟨⟨same, left⟩, ended, closed⟩ := Option.map_eq_some_iff.mp ran
  obtain ⟨-, rfl⟩ := Prod.mk.inj closed
  exact congrArg Nat.succ (closes _ _ _ ended)

end Work

/-! ## A single build -/

/-- **However an attempt to build ends, its store is closed once.** -/
theorem closes_concluding {attempt : Work σ β Counters} (keeps : attempt.Closes 0) :
    (concluding attempt).Closes 1 :=
  keeps.reporting.thenClose.andThen fun _ => Work.closes_give _

/-- The exit, or the fault that escapes, after an attempt to build. -/
def exitAfter : Except RunFault Counters → Except RunFault Exit
  | .ok counters => .ok (exitOf (some counters))
  | .error fault => if isExpected fault then .ok (exitOf none) else .error fault

/-- What is left after an attempt to build. -/
def leftAfter (outcome : Except RunFault Counters) (after : Custody σ β) : Custody σ β :=
  match outcome with
  | .ok _ => after.close
  | .error fault => if isExpected fault then (after.reportFailure fault).close else after.close

theorem store_leftAfter (outcome : Except RunFault Counters) (after : Custody σ β) :
    (leftAfter outcome after).store = after.store := by
  unfold leftAfter
  split
  · rfl
  · split <;> rfl

/-- A fault that is expected is reported at last. -/
theorem getLast?_notices_leftAfter {fault : RunFault} (expected : isExpected fault = true)
    (after : Custody σ β) :
    (leftAfter (.error fault) after).notices.getLast? =
      some ⟨.error, "Building the search index failed: " ++ fault.message⟩ := by
  simp [leftAfter, expected]

/-- What concluding an attempt gives and leaves, whatever the attempt is. -/
theorem concluding_eq (attempt : Work σ β Counters) (custody : Custody σ β) :
    concluding attempt custody =
      (attempt custody).map fun ended => (exitAfter ended.1, leftAfter ended.1 ended.2) := by
  simp only [concluding, Work.andThen, Work.thenClose, Work.reporting, Work.give]
  rcases attempt custody with _ | ⟨fault | counters, after⟩
  · rfl
  · cases expected : isExpected fault with
    | true => simp [exitAfter, leftAfter, expected]
    | false => simp [exitAfter, leftAfter, expected]
  · rfl

theorem notices_reportOfExit (exit : Except RunFault Exit) (notices : List Notice) :
    (reportOfExit exit notices).notices = notices := by
  cases exit <;> rfl

section Stores

variable [RankedStore σ β]

theorem closes_awaitStore (steps : Nat) : (awaitStore steps : Work σ β Unit).Closes 0 := by
  intro custody outcome after ran
  obtain ⟨_, -, ended⟩ := Option.map_eq_some_iff.mp ran
  obtain ⟨-, rfl⟩ := Prod.mk.inj ended
  rfl

theorem closes_runBuild (steps : Nat) : (runBuild steps : Work σ β Counters).Closes 0 := by
  intro custody outcome after ran
  obtain ⟨_, -, ended⟩ := Option.map_eq_some_iff.mp ran
  obtain ⟨-, rfl⟩ := Prod.mk.inj ended
  rfl

/-- **A single build closes its store once on every way out.** -/
theorem closes_singleBuild (steps : Nat) : (singleBuild steps : Work σ β Exit).Closes 1 :=
  closes_concluding ((closes_awaitStore steps).andThen fun _ => closes_runBuild steps)

/-- An attempt is a run that waits for its store. -/
theorem attempt_eq (steps : Nat) (custody : Custody σ β) :
    attempt steps custody = (custody.tasks.runWhenReady steps).map fun ended =>
      (outcomeOf ended.2, { custody with tasks := ended.1 }) := by
  simp only [attempt, Work.andThen, awaitStore, runBuild, Supervisor.runWhenReady]
  cases (custody.tasks.waitForStore steps).result? custody.tasks.tasks.length with
  | none => rfl
  | some _ =>
    simp only [Option.map_some, Option.map_map]
    rfl

/-- **Keeping the index built closes the store once.** -/
theorem closes_keepBuilding (steps ticks : Nat) :
    (keepBuilding steps ticks : Work σ β Exit).Closes 1 := by
  have keeps : (tend steps ticks : Work σ β Exit).Closes 0 := by
    rintro custody outcome after ⟨⟩
    rfl
  exact keeps.thenClose

end Stores

end Typeahead.Command
