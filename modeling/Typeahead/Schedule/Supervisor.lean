import Typeahead.Schedule.Task

/-!
# The supervisor of the tasks

The supervisor starts the task that keeps the index built, remembers it, and
stops it.  It runs several tasks on one clock, which only sleeping moves: the
task that is due first takes the next step.
-/

namespace Typeahead.Schedule

open Typeahead.Catalog Typeahead.Decimal Typeahead.Index Typeahead.Store

set_option autoImplicit false

/-- Tasks with what they share. -/
structure Supervisor (σ β : Type) where
  plan : Plan
  /-- the feed of each call, or why there is none -/
  feeds : Nat → Except String Feed
  desk : Desk σ
  tasks : List (Task β) := []
  /-- the place of the task that keeps the index built -/
  current : Option Nat := none

namespace Supervisor

variable {σ β : Type}

/-- The task at a place. -/
def task? (supervisor : Supervisor σ β) (place : Nat) : Option (Task β) :=
  supervisor.tasks[place]?

/-- What the task at a place left, if it is done. -/
def result? (supervisor : Supervisor σ β) (place : Nat) : Option Result :=
  (supervisor.task? place).bind Task.result?

/-- The task that keeps the index built is there and is not done. -/
def running (supervisor : Supervisor σ β) : Bool :=
  match supervisor.current.bind supervisor.task? with
  | some task => task.result?.isNone
  | none => false

/-- Adds a task that is due now, behind the tasks that are due already. -/
def add (supervisor : Supervisor σ β) (role : Role) (point : Point β) : Supervisor σ β :=
  let desk := supervisor.desk
  let task : Task β := { role, point, wake := ⟨desk.now, desk.order⟩ }
  { supervisor with tasks := supervisor.tasks ++ [task],
                    desk := { desk with order := desk.order + 1 } }

/-- Adds a task that is due at once, before all others. -/
def addFirst (supervisor : Supervisor σ β) (role : Role) (point : Point β) : Supervisor σ β :=
  { supervisor with
    tasks := supervisor.tasks ++ [{ role, point, wake := ⟨supervisor.desk.now, 0⟩ }] }

/-- Starts the task that keeps the index built, unless it is running. -/
def start (supervisor : Supervisor σ β) : Supervisor σ β :=
  if supervisor.running then supervisor
  else
    let notice : Notice := ⟨.info, "Starting index build scheduler (rebuild every " ++
      supervisor.plan.interval.text ++ "s)"⟩
    let reported := { supervisor with desk := supervisor.desk.report [notice] }
    { reported.add .keep .polling with current := some supervisor.tasks.length }

/-- Tells the task at a place to stop: it is due now. -/
def cancel (supervisor : Supervisor σ β) (place : Nat) : Supervisor σ β :=
  let desk := supervisor.desk
  { supervisor with
    tasks := supervisor.tasks.modify place fun task =>
      { task with cancelled := task.result?.isNone, wake := ⟨desk.now, desk.order⟩ }
    desk := { desk with order := desk.order + 1 } }

/-- Forgets the task that keeps the index built and tells it to stop. -/
def detach (supervisor : Supervisor σ β) : Supervisor σ β :=
  match supervisor.current with
  | none => supervisor
  | some place => { supervisor.cancel place with current := none }

section Steps

variable [RankedStore σ β]

/-- The task at a place takes a step. -/
def stepTask (supervisor : Supervisor σ β) (place : Nat) : Supervisor σ β :=
  match supervisor.task? place with
  | none => supervisor
  | some task =>
      let next := task.step supervisor.plan supervisor.feeds supervisor.desk
      { supervisor with desk := next.1, tasks := supervisor.tasks.set place next.2 }

/-- The wake of the task at a place, if it is not done. -/
def wake? (supervisor : Supervisor σ β) (place : Nat) : Option Wake :=
  (supervisor.task? place).bind fun task =>
    if task.result?.isNone then some task.wake else none

/-- The place and the wake of the task that is due first. -/
def first? (supervisor : Supervisor σ β) : Option (Nat × Wake) :=
  (List.range supervisor.tasks.length).foldl (fun best place =>
    match best, supervisor.wake? place with
    | none, some wake => some (place, wake)
    | some (other, least), some wake =>
        if wake.before least then some (place, wake) else some (other, least)
    | best, none => best) none

/-- Moves the clock on to a time. -/
def moveClock (supervisor : Supervisor σ β) (time : Rat) : Supervisor σ β :=
  { supervisor with desk := supervisor.desk.moved time }

/-- Runs what is due up to a time, in at most so many steps, and moves the clock to that time. -/
def runUntil (time : Rat) : Nat → Supervisor σ β → Supervisor σ β
  | 0, supervisor => supervisor.moveClock time
  | steps + 1, supervisor =>
      match supervisor.first? with
      | some (place, wake) =>
          if wake.time ≤ time then
            runUntil time steps ((supervisor.moveClock wake.time).stepTask place)
          else supervisor.moveClock time
      | none => supervisor.moveClock time

/-- Runs what is due until the task at a place is done, in at most so many steps. -/
def runTask (target : Nat) : Nat → Supervisor σ β → Supervisor σ β
  | 0, supervisor => supervisor
  | steps + 1, supervisor =>
      if (supervisor.result? target).isSome then supervisor
      else
        match supervisor.first? with
        | some (place, wake) =>
            runTask target steps ((supervisor.moveClock wake.time).stepTask place)
        | none => supervisor

/-- Sleeps for some seconds while the tasks go on. -/
def advance (steps : Nat) (seconds : Rat) (supervisor : Supervisor σ β) : Supervisor σ β :=
  supervisor.runUntil (supervisor.desk.now + seconds) steps

/-- Builds the index once, while the other tasks go on, and gives what came of it. -/
def runOnce (steps : Nat) (supervisor : Supervisor σ β) : Supervisor σ β × Option Result :=
  let place := supervisor.tasks.length
  let done := (supervisor.addFirst .once (.opening none)).runTask place steps
  (done, done.result? place)

/-- Waits until the store answers, while the other tasks go on. -/
def waitForStore (steps : Nat) (supervisor : Supervisor σ β) : Supervisor σ β :=
  let place := supervisor.tasks.length
  (supervisor.addFirst .ready .polling).runTask place steps

/-- Stops the task that keeps the index built, and waits until it is done. -/
def stop (steps : Nat) (supervisor : Supervisor σ β) : Supervisor σ β :=
  match supervisor.current with
  | none => supervisor
  | some place =>
      let done := supervisor.detach.runTask place steps
      { done with desk := done.desk.report [⟨.info, "Index build scheduler stopped"⟩] }

end Steps

end Supervisor

end Typeahead.Schedule
