import Typeahead.Proofs.Schedule.Strides

/-!
# What a step changes in a supervisor

A step of a task puts another task in its place and leaves another desk
(`Supervisor.put`); all other tasks stay as they are.  Between what its parties do to
it, a supervisor goes on by paces: a task takes a step, or time goes by.

A supervisor that has one task only goes on when this task takes its steps.
-/

namespace Typeahead.Schedule

open Typeahead.Catalog Typeahead.Index Typeahead.Store

set_option autoImplicit false

variable {σ β : Type}

/-- How a supervisor goes on. -/
inductive Pace where
  /-- the task at a place takes a step -/
  | step (place : Nat)
  /-- time goes by -/
  | clock (time : Rat)
  deriving DecidableEq, Repr, Inhabited

/-- A task that builds is not done. -/
theorem Task.result?_of_isBuilding {task : Task β} (building : task.isBuilding = true) :
    task.result? = none := by
  cases point : task.point with
  | done result => simp [Task.isBuilding, point] at building
  | _ => simp [Task.result?, point]

namespace Supervisor

/-- The task at a place has a build in progress. -/
def builds (supervisor : Supervisor σ β) (place : Nat) : Bool :=
  (supervisor.task? place).any Task.isBuilding

section Paces

variable [RankedStore σ β]

/-- A supervisor goes on. -/
def pace (supervisor : Supervisor σ β) : Pace → Supervisor σ β
  | .step place => supervisor.stepTask place
  | .clock time => supervisor.moveClock time

/-- A supervisor goes on by several paces. -/
def paces (supervisor : Supervisor σ β) (list : List Pace) : Supervisor σ β :=
  list.foldl pace supervisor

end Paces

variable {supervisor : Supervisor σ β} {place other : Nat} {task next : Task β} {desk : Desk σ}

/-! ## Changing one task -/

/-- Puts a task in the place of another. -/
def put (supervisor : Supervisor σ β) (place : Nat) (desk : Desk σ) (task : Task β) :
    Supervisor σ β :=
  { supervisor with desk, tasks := supervisor.tasks.set place task }

@[simp] theorem desk_put : (supervisor.put place desk next).desk = desk := rfl

theorem task?_put_self (found : supervisor.task? place = some task) :
    (supervisor.put place desk next).task? place = some next := by
  have inside : place < supervisor.tasks.length := (List.getElem?_eq_some_iff.mp found).1
  exact List.getElem?_set_self inside

theorem task?_put_of_ne (distinct : other ≠ place) :
    (supervisor.put place desk next).task? other = supervisor.task? other :=
  List.getElem?_set_ne distinct.symm

theorem exists_of_builds (builds : supervisor.builds place = true) :
    ∃ task, supervisor.task? place = some task ∧ task.isBuilding = true := by
  cases found : supervisor.task? place with
  | none => simp [Supervisor.builds, found] at builds
  | some task => exact ⟨task, rfl, by simpa [Supervisor.builds, found] using builds⟩

/-- A step of a task that is not there changes nothing. -/
theorem stepTask_of_none [RankedStore σ β] (absent : supervisor.task? place = none) :
    supervisor.stepTask place = supervisor := by
  simp only [stepTask, absent]

/-- A step puts the task that has taken it in its place. -/
theorem stepTask_of_some [RankedStore σ β] (found : supervisor.task? place = some task) :
    supervisor.stepTask place =
      supervisor.put place (task.step supervisor.plan supervisor.feeds supervisor.desk).1
        (task.step supervisor.plan supervisor.feeds supervisor.desk).2 := by
  simp only [stepTask, found]
  rfl

/-- A step that leaves the task and the desk as they are changes nothing. -/
theorem stepTask_of_rests [RankedStore σ β] (found : supervisor.task? place = some task)
    (rests : task.step supervisor.plan supervisor.feeds supervisor.desk =
      (supervisor.desk, task)) : supervisor.stepTask place = supervisor := by
  obtain ⟨inside, there⟩ := List.getElem?_eq_some_iff.mp found
  have same : supervisor.tasks.set place task = supervisor.tasks := by
    rw [← there, List.set_getElem_self]
  rw [stepTask_of_some found, rests, put, same]

/-! ## One task only -/

theorem task?_of_single (single : supervisor.tasks = [task]) :
    supervisor.task? 0 = some task := by
  rw [task?, single]
  rfl

theorem task?_of_single_of_pos (single : supervisor.tasks = [task]) (later : place ≠ 0) :
    supervisor.task? place = none := by
  rw [task?, single, List.getElem?_eq_none]
  exact Nat.one_le_iff_ne_zero.mpr later

theorem tasks_put_of_single (single : supervisor.tasks = [task]) :
    (supervisor.put 0 desk next).tasks = [next] := by
  rw [put, single]
  rfl

/-- The only task is due first as long as it is not done. -/
theorem first?_of_single [RankedStore σ β] (single : supervisor.tasks = [task])
    (going : task.result? = none) : supervisor.first? = some (0, task.wake) := by
  have wakes : supervisor.wake? 0 = some task.wake := by
    simp [wake?, task?_of_single single, going]
  simp [first?, single, wakes]

end Supervisor

/-! ## A keeper only -/

/-- The supervisor has one task, which is its keeper and goes on. -/
structure Keeping (supervisor : Supervisor σ β) (task : Task β) : Prop where
  single : supervisor.tasks = [task]
  current : supervisor.current = some 0
  keeps : task.Keeps

/-- A supervisor without tasks that is started has a keeper that will ping the store. -/
theorem exists_keeping_start (plan : Plan) (feeds : Nat → Except String Feed) (desk : Desk σ) :
    ∃ task, Keeping (Supervisor.start { plan, feeds, desk } : Supervisor σ β) task ∧
      task.point = .polling ∧ task.wake.time = desk.now :=
  ⟨_, ⟨rfl, rfl, rfl, rfl, rfl, nofun⟩, rfl, rfl⟩

namespace Keeping

variable {supervisor : Supervisor σ β} {task : Task β}

theorem clock (keeping : Keeping supervisor task) (time : Rat) :
    Keeping (supervisor.moveClock time) task :=
  ⟨keeping.single, keeping.current, keeping.keeps⟩

theorem step [RankedStore σ β] (keeping : Keeping supervisor task) :
    Keeping (supervisor.stepTask 0)
      (task.step supervisor.plan supervisor.feeds supervisor.desk).2 := by
  rw [Supervisor.stepTask_of_some (Supervisor.task?_of_single keeping.single)]
  exact ⟨Supervisor.tasks_put_of_single keeping.single, keeping.current,
    keeping.keeps.step _ _ _⟩

theorem builds_eq (keeping : Keeping supervisor task) : supervisor.builds 0 = task.isBuilding := by
  rw [Supervisor.builds, Supervisor.task?_of_single keeping.single]
  rfl

end Keeping

end Typeahead.Schedule
