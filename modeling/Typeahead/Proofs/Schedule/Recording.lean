import Typeahead.Proofs.Index.Faults
import Typeahead.Schedule.Supervisor

/-!
# What a single run leaves in the status

A single run asks for a feed, builds from it and may be told to stop wherever it
waits; while it waits, others use the store and time goes by.  Its courses are
all the ways in which this can go (`Course`).

Every course of a run that has got a feed ends with a status that is idle and
tells the end of the run: the counters that the caller gets, or a text about the
fault that the caller gets, which is one that the feed, the store or the order to
stop has raised (`Course.records`).  A run that has got no feed leaves the
status as it was when it began: the status says for ever that a build is running
(`runOnce_without_feed`).
-/

namespace Typeahead.Schedule

open Typeahead.Catalog Typeahead.Index Typeahead.Store

set_option autoImplicit false

variable {σ β : Type} [RankedStore σ β]

/-! ## Courses of a single run -/

/-- The task of a single run that is about to ask for its feed. -/
def Task.single (wake : Wake) : Task β := { role := .once, point := .opening none, wake }

/-- The courses that a single run can take from a desk on.  The flag tells whether the run has been
told to stop; it can be told so wherever it waits.  Other tasks that come between two of its steps
may change everything on the desk but the status, and may let time go by. -/
inductive Course (plan : Plan) (feeds : Nat → Except String Feed) (desk : Desk σ) :
    Bool → Desk σ → Task β → Prop where
  /-- it asks for a feed, and begins to build if there is one -/
  | opens (wake : Wake) :
      Course plan feeds desk false (Task.step plan feeds desk (.single wake)).1
        (Task.step plan feeds desk (.single wake)).2
  /-- it takes a step -/
  | step {told : Bool} {between : Desk σ} {task : Task β}
      (course : Course plan feeds desk told between task) (going : task.result? = none) :
      Course plan feeds desk told (task.step plan feeds between).1 (task.step plan feeds between).2
  /-- others take steps -/
  | others {told : Bool} {between after : Desk σ} {task : Task β}
      (course : Course plan feeds desk told between task) (same : after.status = between.status) :
      Course plan feeds desk told after task
  /-- it is told to stop -/
  | cancel {told : Bool} {between : Desk σ} {task : Task β}
      (course : Course plan feeds desk told between task) (going : task.result? = none)
      (wake : Wake) : Course plan feeds desk true between { task with cancelled := true, wake }

/-- What can be raised during a run. -/
inductive Raised (σ : Type) {β : Type} [RankedStore σ β] (plan : Plan) (feed : Feed) (told : Bool) :
    BuildFault → Prop where
  /-- the size of a batch is refused -/
  | size (fault : SizeFault) (small : plan.batchSize < 1) : Raised σ plan feed told (.size fault)
  /-- the feed fails -/
  | source (cause : SourceFault) (fails : feed.failure = some cause) :
      Raised σ plan feed told (.source cause)
  /-- the store refuses a flush -/
  | flush (store : σ) (batch : β) (cause : FlushFault)
      (refused : (RankedStore.execute store batch).1 = .error cause) :
      Raised σ plan feed told (.flush cause)
  /-- the run has been told to stop -/
  | cancelled (stopped : told = true) : Raised σ plan feed told .cancelled

/-- The fault with which a run has ended. -/
def Result.fault? : Result → Option BuildFault
  | .failed (.build fault) => some fault
  | .stopped => some .cancelled
  | _ => none

/-- What the status tells after a run that was begun on an earlier status and has left a result. -/
inductive Recorded (before : Status) : Result → Status → Prop where
  | built (began ended : Rat) (counters : Counters) :
      Recorded before (.built counters)
        ((before.started began).finished ended (.succeeded counters))
  | failed (began ended : Rat) {result : Result} {fault : BuildFault}
      (ends : result.fault? = some fault) :
      Recorded before result ((before.started began).finished ended (failure fault))

/-- A run on a feed is building, or it is over and its end has been recorded. -/
inductive Underway (plan : Plan) (feed : Feed) (before : Status) (told : Bool) (desk : Desk σ)
    (task : Task β) : Prop where
  | building {build : Build β} {ticker : Option Ticker} {began : Rat} (role : task.role = .once)
      (point : task.point = .building build ticker) (status : desk.status = before.started began)
      (going : build.ending? = none) (carries : build.Carries (Raised σ plan feed told))
      (heard : task.cancelled = true → told = true)
      (obeys : told = true → task.cancelled = true ∨ build.IsCancelled)
  | ended {result : Result} (point : task.point = .done result)
      (recorded : Recorded before result desk.status)
      (raised : ∀ fault, result.fault? = some fault → Raised σ plan feed told fault)
      (obeys : told = true → result = .stopped)

section Steps

variable {plan : Plan} {feeds : Nat → Except String Feed} {feed : Feed} {before : Status}
  {told : Bool} {desk : Desk σ} {task : Task β}

omit [RankedStore σ β] in
/-- A single run is done when it has been run. -/
theorem Task.afterRun_of_once (role : task.role = .once) (ticker : Option Ticker)
    (outcome : Except RunFault Counters) :
    task.afterRun plan desk ticker outcome =
      (desk, { task with point := .done (match outcome with
        | .ok counters => .built counters
        | .error fault => .failed fault) }) := by
  obtain ⟨_, _, _, _⟩ := task
  obtain rfl := role
  rfl

/-- **Going on with a build records its end as soon as there is one.** -/
theorem Underway.continue {build : Build β} {ticker : Option Ticker} {began : Rat}
    (role : task.role = .once) (status : desk.status = before.started began)
    (carries : build.Carries (Raised σ plan feed told))
    (heard : task.cancelled = true → told = true) (obeys : told = true → build.IsCancelled) :
    Underway plan feed before told (task.continue plan desk build ticker).1
      (task.continue plan desk build ticker).2 := by
  cases ended : build.ending? with
  | none =>
      simp only [Task.continue, ended]
      exact .building role rfl status ended carries heard fun stopped => .inr (obeys stopped)
  | some ending =>
      have stage := Build.ending?_eq_some_iff.mp ended
      have stopping : told = true → ending = .failed .cancelled := by
        intro stopped
        rcases obeys stopped with ⟨steps, closing⟩ | finished
        · rw [stage] at closing
          cases closing
        · rw [stage] at finished
          exact Stage.finished.inj finished
      cases ending with
      | built counters =>
          simp only [Task.continue, ended, Task.afterRun_of_once role, outcomeOf]
          refine .ended rfl ?_ nofun fun stopped => nomatch stopping stopped
          rw [Desk.record, status]
          exact .built began desk.now counters
      | failed fault =>
          have raised := carries.finished fault stage
          cases fault with
          | cancelled =>
              simp only [Task.continue, ended, outcomeOf]
              refine .ended rfl ?_ ?_ fun _ => rfl
              · rw [Desk.record, status]
                exact .failed began desk.now rfl
              · rintro _ ⟨⟩
                exact raised
          | _ =>
              simp only [Task.continue, ended, Task.afterRun_of_once role, outcomeOf]
              refine .ended rfl ?_ ?_ fun stopped => nomatch stopping stopped
              · rw [Desk.record, status]
                exact .failed began desk.now rfl
              · rintro _ ⟨⟩
                exact raised

/-- **A step of a run keeps it building or records its end.** -/
theorem Underway.step (underway : Underway plan feed before told desk task)
    (going : task.result? = none) :
    Underway plan feed before told (task.step plan feeds desk).1
      (task.step plan feeds desk).2 := by
  cases underway with
  | ended point _ _ _ => simp [Task.result?, point] at going
  | building role point status unended carries heard obeys =>
      rename_i build ticker began
      cases cancelled : task.cancelled with
      | true =>
          have stopped : (build.cancel σ).Carries (Raised σ plan feed told) :=
            carries.cancel (.cancelled (heard cancelled))
          simp only [Task.step, cancelled, if_true, Task.stop, point]
          exact .continue role status stopped nofun fun _ => Build.isCancelled_cancel unended
      | false =>
          have moved := carries.move (fun store batch cause => .flush store batch cause)
            (Build.move_step desk.store build)
          have kept : (Desk.report { desk with store := (build.step desk.store).1 }
              (build.step desk.store).2.2).status = before.started began := status
          have obeyed : told = true → (build.step desk.store).2.1.IsCancelled := by
            intro stopped
            have isCancelled : build.IsCancelled := by
              simpa [cancelled] using obeys stopped
            exact isCancelled.move (Build.move_step desk.store build)
          simp only [Task.step, cancelled, Bool.false_eq_true, if_false, Task.advance, point]
          cases pause : build.pause? with
          | none => exact .continue role kept moved heard obeyed
          | some seconds =>
              exact .building role rfl kept (Build.ending?_step_of_pause pause) moved heard
                fun stopped => .inr (obeyed stopped)

/-- **A run that gets a feed begins to build, or its end is recorded at once.** -/
theorem underway_opens (found : feeds desk.calls = .ok feed) (wake : Wake) :
    Underway plan feed desk.status false (Task.step plan feeds desk (.single wake : Task β)).1
      (Task.step plan feeds desk (.single wake : Task β)).2 := by
  change Underway plan feed desk.status false
    (Task.open plan feeds desk (.single wake : Task β) none).1
    (Task.open plan feeds desk (.single wake : Task β) none).2
  simp only [Task.open, found]
  cases opened : Writer.open? desk.store plan.batchSize with
  | error fault =>
      have small : plan.batchSize < 1 := by
        rw [Writer.open?] at opened
        split at opened
        next => cases opened
        next notPositive => omega
      simp only [Build.start, opened]
      rw [Task.afterRun_of_once rfl]
      refine .ended rfl ?_ ?_ ?_
      · exact .failed desk.now desk.now rfl
      · rintro _ ⟨⟩
        exact .size fault small
      · rintro ⟨⟩
  | ok writer =>
      simp only [Build.start, opened]
      refine .building rfl rfl rfl rfl ⟨?_, ?_, ?_⟩ ?_ ?_
      · intro cause fails
        exact .source cause fails
      · rintro _ _ ⟨⟩
      · rintro _ ⟨⟩
      · rintro ⟨⟩
      · rintro ⟨⟩

theorem Underway.others {after : Desk σ} (underway : Underway plan feed before told desk task)
    (same : after.status = desk.status) : Underway plan feed before told after task := by
  cases underway with
  | building role point status unended carries heard obeys =>
      exact .building role point (same.trans status) unended carries heard obeys
  | ended point recorded raised obeys => exact .ended point (same ▸ recorded) raised obeys

theorem Raised.of_told {fault : BuildFault} (raised : Raised σ plan feed told fault) :
    Raised σ plan feed true fault := by
  cases raised with
  | size fault small => exact .size fault small
  | source cause fails => exact .source cause fails
  | flush store batch cause refused => exact .flush store batch cause refused
  | cancelled stopped => exact .cancelled rfl

theorem Underway.cancel (underway : Underway plan feed before told desk task)
    (going : task.result? = none) (wake : Wake) :
    Underway plan feed before true desk { task with cancelled := true, wake } := by
  cases underway with
  | building role point status unended carries heard obeys =>
      refine .building role point status unended ?_ (fun _ => rfl) fun _ => .inl rfl
      exact {
        failure := fun cause fails => (carries.failure cause fails).of_told
        closing := fun steps fault stage => (carries.closing steps fault stage).of_told
        finished := fun fault stage => (carries.finished fault stage).of_told }
  | ended point _ _ _ => simp [Task.result?, point] at going

namespace Course

/-- **What every step keeps holds along every course.** -/
theorem underway {after : Desk σ} (found : feeds desk.calls = .ok feed)
    (course : Course plan feeds desk told after task) :
    Underway plan feed desk.status told after task := by
  induction course with
  | opens wake => exact underway_opens found wake
  | step _ going inductionHypothesis => exact inductionHypothesis.step going
  | others _ same inductionHypothesis => exact inductionHypothesis.others same
  | cancel _ going wake inductionHypothesis => exact inductionHypothesis.cancel going wake

/-- **A run without a feed is over at once, and its end is not recorded.** -/
theorem without_feed {after : Desk σ} {reason : String} (missing : feeds desk.calls = .error reason)
    (course : Course plan feeds desk told after task) :
    task.result? = some (.failed (.noFeed reason)) ∧
      after.status = desk.status.started desk.now := by
  induction course with
  | opens wake =>
      change Task.result? (Task.open plan feeds desk (.single wake : Task β) none).2 = _ ∧
        (Task.open plan feeds desk (.single wake : Task β) none).1.status = _
      simp only [Task.open, missing]
      rw [Task.afterRun_of_once rfl]
      exact ⟨rfl, rfl⟩
  | step _ going inductionHypothesis =>
      rw [inductionHypothesis.1] at going
      cases going
  | others _ same inductionHypothesis =>
      exact ⟨inductionHypothesis.1, same.trans inductionHypothesis.2⟩
  | cancel _ going _ inductionHypothesis =>
      rw [inductionHypothesis.1] at going
      cases going

end Course

end Steps

/-! ## What is said about a failure -/

theorem faultName_ne_empty (fault : BuildFault) : faultName fault ≠ "" := by
  unfold faultName
  split <;> decide

/-- A failure is always given a text. -/
theorem describe_ne_empty {kind : String} (named : kind ≠ "") (message : String) :
    describe kind message ≠ "" := by
  rw [describe]
  split
  next => exact named
  next some =>
    rintro rfl
    exact some rfl

/-- **The end of every run on a feed is recorded.**  Whatever the status was before, it counts one
attempt more and is idle.  A run that gives counters is recorded as succeeded with them; every other
run gives a fault that was raised during it, and is recorded as failed with a text about this fault
and without counters.  A run is stopped exactly when it was told to stop.

Only a run that has got no feed is not recorded: the status goes on to say that it is building, and
tells the outcome of an earlier run. -/
theorem Course.records {plan : Plan} {feeds : Nat → Except String Feed} {desk after : Desk σ}
    {told : Bool} {task : Task β} {result : Result}
    (course : Course plan feeds desk told after task) (ended : task.result? = some result) :
    after.status.attempted = desk.status.attempted + 1 ∧
    (∀ feed, feeds desk.calls = .ok feed →
      after.status.stateName = "idle" ∧ (told = true ↔ result = .stopped) ∧
      ((∃ counters, result = .built counters ∧ after.status.last = some (.succeeded counters)) ∨
        ∃ fault, result.fault? = some fault ∧ Raised σ plan feed told fault ∧
          ∃ error, error ≠ "" ∧ error = describe (faultName fault) fault.message ∧
            after.status.last = some (.failed error none))) ∧
    (∀ reason, feeds desk.calls = .error reason →
      result = .failed (.noFeed reason) ∧ after.status.stateName = "building" ∧
        after.status.last = desk.status.last) := by
  cases found : feeds desk.calls with
  | error reason =>
      obtain ⟨noFeed, status⟩ := course.without_feed found
      rw [ended] at noFeed
      refine ⟨?_, nofun, ?_⟩
      · rw [status]
        rfl
      · rintro _ ⟨⟩
        rw [status]
        exact ⟨Option.some.inj noFeed, rfl, rfl⟩
  | ok feed =>
      cases course.underway found with
      | building _ point _ _ _ _ _ => simp [Task.result?, point] at ended
      | ended point recorded raised obeys =>
          rename_i left
          have same : result = left := by simpa [Task.result?, point] using ended.symm
          subst same
          have stopped : told = true ↔ result = .stopped := by
            refine ⟨obeys, ?_⟩
            rintro rfl
            cases raised .cancelled rfl with
            | cancelled stopped => exact stopped
          generalize after.status = status at recorded ⊢
          cases recorded with
          | built began ended counters =>
              refine ⟨rfl, ?_, nofun⟩
              rintro _ ⟨⟩
              exact ⟨rfl, stopped, .inl ⟨counters, rfl, rfl⟩⟩
          | failed began ended ends =>
              rename_i fault
              refine ⟨rfl, ?_, nofun⟩
              rintro _ ⟨⟩
              refine ⟨rfl, stopped, .inr ⟨fault, ends, raised fault ends, _, ?_, rfl, rfl⟩⟩
              exact describe_ne_empty (faultName_ne_empty fault) fault.message

/-- A plan of runs that flush every pair. -/
def eagerPlan : Plan := { interval := .zero, poll := 0, batchSize := 1 }

/-- A feed in which nothing comes for a second, and which takes two steps to close. -/
def slowFeed : Feed := { signals := [.pause 1], closing := 1 }

/-- A run that is told to stop while it waits for its feed. -/
theorem records_run_told_to_stop :
    let desk : Desk MemoryStore := { store := .empty }
    let feeds : Nat → Except String Feed := fun _ => .ok slowFeed
    let opened := Task.step eagerPlan feeds desk (.single ⟨0, 0⟩)
    let waiting := opened.2.step eagerPlan feeds opened.1
    let closing := Task.step eagerPlan feeds waiting.1
      { waiting.2 with cancelled := true, wake := ⟨0, 1⟩ }
    let final := closing.2.step eagerPlan feeds closing.1
    Course eagerPlan feeds desk true final.1 final.2 ∧ final.2.result? = some .stopped ∧
      final.1.status.attempted = 1 ∧ final.1.status.stateName = "idle" ∧
      ∃ error, error ≠ "" ∧ final.1.status.last = some (.failed error none) := by
  intro desk feeds opened waiting closing final
  have course : Course eagerPlan feeds desk true final.1 final.2 := by
    have first : Course eagerPlan feeds desk false opened.1 opened.2 := .opens ⟨0, 0⟩
    have second : Course eagerPlan feeds desk false waiting.1 waiting.2 := first.step rfl
    exact ((second.cancel rfl ⟨0, 1⟩).step rfl).step rfl
  have ended : final.2.result? = some .stopped := rfl
  obtain ⟨attempted, recorded, _⟩ := course.records ended
  obtain ⟨idle, _, succeeded | failed⟩ := recorded slowFeed rfl
  · obtain ⟨counters, built, _⟩ := succeeded
    cases built
  · obtain ⟨fault, _, _, error, some, _, last⟩ := failed
    exact ⟨course, ended, attempted, idle, error, some, last⟩

/-- **A run that finds no feed leaves the status building.** -/
theorem runOnce_without_feed :
    let supervisor : Supervisor MemoryStore MemoryBatch :=
      { plan := eagerPlan, feeds := fun _ => .error "Could not determine home directory."
        desk := { store := .empty } }
    let run := supervisor.runOnce 1
    run.2 = some (.failed (.noFeed "Could not determine home directory.")) ∧
      run.1.desk.status.stateName = "building" ∧ run.1.desk.status.last = none ∧
      run.1.first? = none := by
  decide +kernel

end Typeahead.Schedule
