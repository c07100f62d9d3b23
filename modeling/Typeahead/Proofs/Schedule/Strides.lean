import Typeahead.Proofs.Index.Faults
import Typeahead.Schedule.Supervisor

/-!
# What one step of a keeper can do

A keeper is a task that keeps the index built.  As long as it has not been told to
stop (`Task.Keeps`), each of its steps is one of the ways that `Stride` lists
(`Task.Keeps.stride`), and it goes on for ever (`Stride.keeps`).

When it is told to stop (`Task.Keeps.cancel`), it is on its way out (`Task.Leaves`):
each of its steps is one of the ways that `Heed` lists (`Task.Leaves.heed`), and
brings it closer to its end (`Heed.heedLeft_lt`).  It leaves the store alone on this
way, and the one thing that it can still do to the status is to record that its build
was cancelled.
-/

namespace Typeahead.Schedule

open Typeahead.Catalog Typeahead.Index Typeahead.Store

set_option autoImplicit false

variable {σ β : Type}

/-! ## Desks -/

namespace Desk

@[simp] theorem status_report (desk : Desk σ) (notices : List Notice) :
    (desk.report notices).status = desk.status := rfl

theorem report_nil (desk : Desk σ) : desk.report [] = desk := by
  simp [report]

/-- A task falls asleep. -/
def slept (desk : Desk σ) : Desk σ := { desk with order := desk.order + 1 }

@[simp] theorem status_slept (desk : Desk σ) : desk.slept.status = desk.status := rfl

/-- A feed is asked for. -/
def asked (desk : Desk σ) : Desk σ :=
  { desk with status := desk.status.started desk.now, calls := desk.calls + 1 }

section Stores

variable [RankedStore σ β]

/-- The store is pinged. -/
def pinged (desk : Desk σ) : Desk σ := { desk with store := (RankedStore.ping desk.store).2 }

@[simp] theorem status_pinged (desk : Desk σ) : desk.pinged.status = desk.status := rfl

/-- A build takes a step on the store. -/
def built (desk : Desk σ) (build : Build β) : Desk σ :=
  { desk with store := (build.step desk.store).1 }

@[simp] theorem status_built (desk : Desk σ) (build : Build β) :
    (desk.built build).status = desk.status := rfl

end Stores

end Desk

/-! ## Keepers -/

/-- The task has a build in progress. -/
def Task.isBuilding (task : Task β) : Bool :=
  match task.point with
  | .building _ _ => true
  | _ => false

/-- The task keeps the index built, and has not been told to stop. -/
structure Task.Keeps (task : Task β) : Prop where
  role : task.role = .keep
  untold : task.cancelled = false
  going : task.result? = none
  building : ∀ {build ticker}, task.point = .building build ticker →
    build.ending? = none ∧ build.Carries (· ≠ .cancelled)

/-- The task has been told to stop, and is on its way out or done. -/
inductive Task.Leaves (task : Task β) : Prop where
  /-- it has not heard of it yet -/
  | told (told : task.cancelled = true) (going : task.result? = none)
      (building : ∀ {build ticker}, task.point = .building build ticker → build.ending? = none)
  /-- it closes the feed of its build -/
  | closing {build : Build β} {ticker : Option Ticker} (heard : task.cancelled = false)
      (point : task.point = .building build ticker) (going : build.ending? = none)
      (obeys : build.IsCancelled)
  /-- it is done -/
  | gone (heard : task.cancelled = false) (point : task.point = .done .stopped)

/-- The ticker for which a keeper waits behind a run. -/
def Plan.tickerAfter (plan : Plan) (now : Rat) : Option Ticker → Ticker
  | none => Ticker.start plan.interval.value now
  | some ticker => ticker.next now

/-- A keeper waits for its next tick. -/
def Task.rests (plan : Plan) (now : Rat) (order : Nat) (task : Task β) (ticker : Option Ticker) :
    Task β :=
  { task with point := .ticking (plan.tickerAfter now ticker)
              wake := ⟨(plan.tickerAfter now ticker).fireTime now, order⟩ }

/-- The ways in which a task that has been told to stop gets from one state to the next. -/
inductive Heed (desk : Desk σ) (task : Task β) : Desk σ → Task β → Prop where
  /-- it has nothing to close -/
  | stops (told : task.cancelled = true) (idle : task.isBuilding = false) :
      Heed desk task desk { task with point := .done .stopped, cancelled := false }
  /-- it goes on to close the feed of its build -/
  | closes {build next : Build β} {ticker : Option Ticker}
      (point : task.point = .building build ticker)
      (going : next.ending? = none) (obeys : next.IsCancelled)
      (closer : next.stepsLeft < build.stepsLeft + task.cancelled.toNat) :
      Heed desk task desk { task with point := .building next ticker, cancelled := false }
  /-- the feed of its build is closed -/
  | closed {build : Build β} {ticker : Option Ticker} (point : task.point = .building build ticker)
      (closer : 0 < build.stepsLeft + task.cancelled.toNat) :
      Heed desk task (desk.record (failure .cancelled))
        { task with point := .done .stopped, cancelled := false }

section Steps

variable [RankedStore σ β]

/-- The ways in which a keeper that goes on gets from one state to the next. -/
inductive Stride (plan : Plan) (feeds : Nat → Except String Feed) (desk : Desk σ)
    (task : Task β) : Desk σ → Task β → Prop where
  /-- a ping is not answered -/
  | unanswered {fault : PingFault} {notices : List Notice} (point : task.point = .polling)
      (silent : (RankedStore.ping desk.store).1 = .error fault) :
      Stride plan feeds desk task (desk.pinged.report notices).slept
        { task with point := .polling, wake := ⟨desk.now + plan.poll, desk.order⟩ }
  /-- a ping is answered -/
  | answered (point : task.point = .polling) (ready : (RankedStore.ping desk.store).1 = .ok ()) :
      Stride plan feeds desk task desk.pinged { task with point := .opening none }
  /-- a tick fires -/
  | tick {ticker : Ticker} (point : task.point = .ticking ticker) :
      Stride plan feeds desk task desk { task with point := .opening (some ticker.fire) }
  /-- there is no feed to build from -/
  | missing {ticker : Option Ticker} {reason : String} {notices : List Notice}
      (point : task.point = .opening ticker) (absent : feeds desk.calls = .error reason) :
      Stride plan feeds desk task (desk.asked.report notices).slept
        (task.rests plan desk.now desk.order ticker)
  /-- a build is refused -/
  | refused {ticker : Option Ticker} {feed : Feed} {fault : BuildFault}
      {notices complaint : List Notice} (point : task.point = .opening ticker)
      (found : feeds desk.calls = .ok feed) :
      Stride plan feeds desk task
        (((desk.asked.report notices).record (failure fault)).report complaint).slept
        (task.rests plan desk.now desk.order ticker)
  /-- a build begins -/
  | begins {ticker : Option Ticker} {feed : Feed} {writer : Writer β} {notices : List Notice}
      (point : task.point = .opening ticker) (found : feeds desk.calls = .ok feed)
      (opened : Writer.open? desk.store plan.batchSize = .ok writer) :
      Stride plan feeds desk task (desk.asked.report notices)
        { task with point := .building (Build.fresh plan.enumeration writer feed) ticker }
  /-- a build waits for its feed -/
  | pauses {build : Build β} {ticker : Option Ticker} {seconds : Rat} {notices : List Notice}
      (point : task.point = .building build ticker) (pause : build.pause? = some seconds) :
      Stride plan feeds desk task ((desk.built build).report notices).slept
        { task with point := .building (build.step desk.store).2.1 ticker
                    wake := ⟨desk.now + seconds, desk.order⟩ }
  /-- a build goes on -/
  | goesOn {build : Build β} {ticker : Option Ticker} {notices : List Notice}
      (point : task.point = .building build ticker)
      (going : (build.step desk.store).2.1.ending? = none) :
      Stride plan feeds desk task ((desk.built build).report notices)
        { task with point := .building (build.step desk.store).2.1 ticker }
  /-- a build ends -/
  | ends {build : Build β} {ticker : Option Ticker} {ending : Ending}
      {notices complaint : List Notice} (point : task.point = .building build ticker)
      (ended : (build.step desk.store).2.1.ending? = some ending) :
      Stride plan feeds desk task
        ((((desk.built build).report notices).record (outcomeOf ending)).report complaint).slept
        (task.rests plan desk.now desk.order ticker)

variable {plan : Plan} {feeds : Nat → Except String Feed} {desk after : Desk σ}
  {task next : Task β}

/-! ## Going on -/

omit [RankedStore σ β] in
/-- A keeper waits for its next tick when it has been run, and reports what went wrong. -/
theorem Task.exists_afterRun_eq (keeps : task.role = .keep) (plan : Plan) (desk : Desk σ)
    (ticker : Option Ticker) (outcome : Except RunFault Counters) :
    ∃ complaint, task.afterRun plan desk ticker outcome =
      ((desk.report complaint).slept, task.rests plan desk.now desk.order ticker) := by
  obtain ⟨_, _, _, _⟩ := task
  obtain rfl := keeps
  cases outcome with
  | ok counters =>
      refine ⟨[], ?_⟩
      rw [Desk.report_nil]
      cases ticker <;> rfl
  | error fault =>
      refine ⟨[⟨.error, "Building the search index failed: " ++ fault.message⟩], ?_⟩
      cases ticker <;> rfl

/-- A keeper that asks for a feed begins to build, or waits for its next tick. -/
theorem stride_open (keeps : task.role = .keep) {ticker : Option Ticker}
    (point : task.point = .opening ticker) :
    Stride plan feeds desk task (task.open plan feeds desk ticker).1
      (task.open plan feeds desk ticker).2 := by
  cases found : feeds desk.calls with
  | error reason =>
      obtain ⟨complaint, rests⟩ := Task.exists_afterRun_eq keeps plan desk.asked ticker
        (.error (.noFeed reason))
      have missed : task.open plan feeds desk ticker =
          ((desk.asked.report complaint).slept, task.rests plan desk.now desk.order ticker) := by
        simp only [Task.open, found]
        exact rests
      rw [missed]
      exact .missing point found
  | ok feed =>
      cases opened : (Writer.open? desk.store plan.batchSize : Except SizeFault (Writer β)) with
      | error fault =>
          let recorded := (desk.asked.report [beginNotice]).record (failure (.size fault))
          obtain ⟨complaint, rests⟩ := Task.exists_afterRun_eq keeps plan recorded ticker
            (.error (.build (.size fault)))
          have refused : task.open plan feeds desk ticker =
              ((recorded.report complaint).slept, task.rests plan desk.now desk.order ticker) := by
            simp only [Task.open, found, Build.start, opened]
            exact rests
          rw [refused]
          exact .refused point found
      | ok writer =>
          have begun : task.open plan feeds desk ticker =
              (desk.asked.report (beginNotice :: feed.opening.toList),
                { task with
                  point := .building (Build.fresh plan.enumeration writer feed) ticker }) := by
            simp only [Task.open, found, Build.start, opened]
            rfl
          rw [begun]
          exact .begins point found opened

/-- A keeper that pings the store waits for the next ping, or is about to build. -/
theorem stride_poll (keeps : task.role = .keep) (point : task.point = .polling) :
    Stride plan feeds desk task (task.poll plan desk).1 (task.poll plan desk).2 := by
  cases answer : (RankedStore.ping desk.store).1 with
  | error fault =>
      simp only [Task.poll, answer]
      exact .unanswered point answer
  | ok _ =>
      have polled : task.poll plan desk = (desk.pinged, { task with point := .opening none }) := by
        simp only [Task.poll, answer, keeps]
        rfl
      rw [polled]
      exact .answered point answer

/-- A keeper that builds goes on with its build, or waits for its next tick. -/
theorem stride_building (keeps : task.role = .keep) {build : Build β} {ticker : Option Ticker}
    (point : task.point = .building build ticker)
    (carries : (build.step desk.store).2.1.Carries (· ≠ .cancelled)) (notices : List Notice) :
    Stride plan feeds desk task
      (task.continue plan ((desk.built build).report notices) (build.step desk.store).2.1 ticker).1
      (task.continue plan ((desk.built build).report notices)
        (build.step desk.store).2.1 ticker).2 := by
  cases ended : (build.step desk.store).2.1.ending? with
  | none =>
      simp only [Task.continue, ended]
      exact .goesOn point ended
  | some ending =>
      have rests := fun outcome => Task.exists_afterRun_eq keeps plan
        (((desk.built build).report notices).record (outcomeOf ending)) ticker outcome
      cases ending with
      | built counters =>
          obtain ⟨complaint, rests⟩ := rests (.ok counters)
          simp only [Task.continue, ended, rests]
          exact .ends point ended
      | failed fault =>
          obtain ⟨complaint, rests⟩ := rests (.error (.build fault))
          have own : fault ≠ .cancelled :=
            carries.finished fault (Build.ending?_eq_some_iff.mp ended)
          cases fault with
          | cancelled => exact (own rfl).elim
          | _ =>
              simp only [Task.continue, ended, rests]
              exact .ends point ended

/-- No step of a build cancels it. -/
theorem carries_step {build : Build β} (carries : build.Carries (· ≠ .cancelled)) (store : σ) :
    (build.step store).2.1.Carries (· ≠ .cancelled) :=
  carries.move (fun _ _ _ _ => nofun) (Build.move_step store build)

/-- **Every step of a keeper is one of the strides.** -/
theorem Task.Keeps.stride (keeps : task.Keeps) (plan : Plan) (feeds : Nat → Except String Feed)
    (desk : Desk σ) :
    Stride plan feeds desk task (task.step plan feeds desk).1 (task.step plan feeds desk).2 := by
  simp only [Task.step, keeps.untold, Bool.false_eq_true, if_false]
  cases point : task.point with
  | polling =>
      simp only [Task.advance, point]
      exact stride_poll keeps.role point
  | opening ticker =>
      simp only [Task.advance, point]
      exact stride_open keeps.role point
  | ticking ticker =>
      simp only [Task.advance, point]
      exact .tick point
  | building build ticker =>
      have carries := carries_step (keeps.building point).2 desk.store
      cases pause : build.pause? with
      | none =>
          simp only [Task.advance, point, pause]
          exact stride_building keeps.role point carries _
      | some seconds =>
          simp only [Task.advance, point, pause]
          exact .pauses point pause
  | done result =>
      have going := keeps.going
      simp [Task.result?, point] at going

omit [RankedStore σ β] in
/-- A keeper that does not build goes on. -/
theorem Task.Keeps.idle (keeps : task.Keeps) (role : next.role = task.role)
    (untold : next.cancelled = task.cancelled) (going : next.result? = none)
    (idle : next.isBuilding = false) : next.Keeps where
  role := role.trans keeps.role
  untold := untold.trans keeps.untold
  going := going
  building point := by simp [Task.isBuilding, point] at idle

omit [RankedStore σ β] in
/-- A keeper that builds goes on. -/
theorem Task.Keeps.builds (keeps : task.Keeps) {build : Build β} {ticker : Option Ticker}
    (role : next.role = task.role) (untold : next.cancelled = task.cancelled)
    (point : next.point = .building build ticker) (going : build.ending? = none)
    (carries : build.Carries (· ≠ .cancelled)) : next.Keeps where
  role := role.trans keeps.role
  untold := untold.trans keeps.untold
  going := by simp [Task.result?, point]
  building other := by
    rw [point] at other
    cases other
    exact ⟨going, carries⟩

/-- **A keeper goes on until it is told to stop.** -/
theorem Stride.keeps (stride : Stride plan feeds desk task after next) (keeps : task.Keeps) :
    next.Keeps := by
  cases stride with
  | begins => exact keeps.builds rfl rfl rfl rfl ⟨fun _ _ => nofun, nofun, nofun⟩
  | pauses point pause =>
      exact keeps.builds rfl rfl rfl (Build.ending?_step_of_pause pause)
        (carries_step (keeps.building point).2 desk.store)
  | goesOn point going =>
      exact keeps.builds rfl rfl rfl going (carries_step (keeps.building point).2 desk.store)
  | _ => exact keeps.idle rfl rfl rfl rfl

theorem Task.Keeps.step (keeps : task.Keeps) (plan : Plan) (feeds : Nat → Except String Feed)
    (desk : Desk σ) : (task.step plan feeds desk).2.Keeps :=
  (keeps.stride plan feeds desk).keeps keeps

/-! ## Leaving -/

omit [RankedStore σ β] in
/-- A keeper that is told to stop is on its way out. -/
theorem Task.Keeps.cancel (keeps : task.Keeps) (wake : Wake) :
    Task.Leaves { task with cancelled := true, wake } :=
  .told rfl keeps.going fun point => (keeps.building point).1

/-- The feed of a build that has been cancelled is closed, and nothing else happens. -/
theorem exists_step_of_isCancelled {build : Build β} (obeys : build.IsCancelled)
    (going : build.ending? = none) (store : σ) :
    ∃ next : Build β, build.step store = (store, next, []) ∧ build.pause? = none ∧
      next.IsCancelled ∧ next.stepsLeft < build.stepsLeft := by
  have move := Build.move_step store build
  have obeyed := obeys.move move
  have closer := move.stepsLeft_lt going
  rcases obeys with ⟨steps, stage⟩ | stage
  · have waits : build.pause? = none := by simp [Build.pause?, stage]
    cases steps with
    | zero =>
        simp only [Build.step, stage] at obeyed closer ⊢
        exact ⟨_, rfl, waits, obeyed, closer⟩
    | succ steps =>
        simp only [Build.step, stage] at obeyed closer ⊢
        exact ⟨_, rfl, waits, obeyed, closer⟩
  · simp [Build.ending?, stage] at going

/-- Cancelling a build takes it no further from its end. -/
theorem stepsLeft_cancel_le {build : Build β} : (build.cancel σ).stepsLeft ≤ build.stepsLeft := by
  cases stage : build.stage with
  | reading =>
      refine Nat.le_trans (by simpa [Build.cancel, stage] using Build.stepsLeft_breakOff_le _ _) ?_
      simp only [Build.stepsLeft, Build.stepsLeftIn, stage]
      omega
  | flushing =>
      refine Nat.le_trans (by simpa [Build.cancel, stage] using Build.stepsLeft_breakOff_le _ _) ?_
      simp only [Build.stepsLeft, Build.stepsLeftIn, stage]
      omega
  | _ => simp [Build.cancel, Build.stepsLeft, Build.stepsLeftIn, stage]

omit [RankedStore σ β] in
/-- A task that goes on with a cancelled build closes its feed further, or is done. -/
theorem heed_continue {build kept : Build β} {ticker : Option Ticker} (plan : Plan)
    (point : task.point = .building kept ticker) {heard : Task β}
    (hears : heard = { task with cancelled := false }) (obeys : build.IsCancelled)
    (closer : build.stepsLeft < kept.stepsLeft + task.cancelled.toNat) :
    Heed desk task (heard.continue plan desk build ticker).1
      (heard.continue plan desk build ticker).2 := by
  subst hears
  cases ended : build.ending? with
  | none =>
      simp only [Task.continue, ended]
      exact .closes point ended obeys closer
  | some ending =>
      have stage := Build.ending?_eq_some_iff.mp ended
      rcases obeys with ⟨steps, closing⟩ | finished
      · rw [stage] at closing
        cases closing
      · rw [stage] at finished
        obtain rfl := Stage.finished.inj finished
        simp only [Task.continue, ended]
        exact .closed point (Nat.zero_lt_of_lt closer)

/-- **Every step of a task that has been told to stop heeds it, until the task is done.** -/
theorem Task.Leaves.heed (leaves : task.Leaves) (plan : Plan) (feeds : Nat → Except String Feed)
    (desk : Desk σ) (going : task.result? = none) :
    Heed desk task (task.step plan feeds desk).1 (task.step plan feeds desk).2 := by
  cases leaves with
  | told told _ building =>
      simp only [Task.step, told, if_true]
      cases point : task.point with
      | building build ticker =>
          simp only [Task.stop, point]
          have obeys : (build.cancel σ).IsCancelled := Build.isCancelled_cancel (building point)
          refine heed_continue plan point (by rw [point]) obeys ?_
          rw [told]
          exact Nat.lt_succ_of_le stepsLeft_cancel_le
      | done result => simp [Task.result?, point] at going
      | _ =>
          simp only [Task.stop, point]
          exact .stops told (by simp [Task.isBuilding, point])
  | closing heard point unended obeys =>
      rename_i build ticker
      obtain ⟨next, step, waits, obeyed, closer⟩ :=
        exists_step_of_isCancelled obeys unended desk.store
      have continues : task.step plan feeds desk = task.continue plan desk next ticker := by
        simp only [Task.step, heard, Bool.false_eq_true, if_false, Task.advance, point, waits, step]
        rw [Desk.report_nil]
      rw [continues]
      exact heed_continue plan point (by rw [← heard]) obeyed (Nat.lt_add_right _ closer)
  | gone _ point => simp [Task.result?, point] at going

omit [RankedStore σ β] in
/-- **A task that has been told to stop stays on its way out.** -/
theorem Heed.leaves (heed : Heed desk task after next) : next.Leaves := by
  cases heed with
  | stops => exact .gone rfl rfl
  | closes _ going obeys _ => exact .closing rfl rfl going obeys
  | closed => exact .gone rfl rfl

/-- A task that has been told to stop heeds it, or is done and stays as it is. -/
theorem Task.Leaves.step_cases (leaves : task.Leaves) (plan : Plan)
    (feeds : Nat → Except String Feed) (desk : Desk σ) :
    (task.result? = none ∧
      Heed desk task (task.step plan feeds desk).1 (task.step plan feeds desk).2) ∨
    (task.result? = some .stopped ∧ task.step plan feeds desk = (desk, task)) := by
  cases left : task.result? with
  | none => exact .inl ⟨rfl, leaves.heed plan feeds desk left⟩
  | some result =>
      cases leaves with
      | told _ going _ => simp [going] at left
      | closing _ point _ _ => simp [Task.result?, point] at left
      | gone heard point =>
          refine .inr ⟨by rw [← left, Task.result?, point], ?_⟩
          simp only [Task.step, heard, Bool.false_eq_true, if_false, Task.advance, point]

theorem Task.Leaves.step (leaves : task.Leaves) (plan : Plan) (feeds : Nat → Except String Feed)
    (desk : Desk σ) : (task.step plan feeds desk).2.Leaves := by
  rcases leaves.step_cases plan feeds desk with ⟨_, heed⟩ | ⟨_, same⟩
  · exact heed.leaves
  · rw [same]
    exact leaves

omit [RankedStore σ β] in
theorem Heed.store_eq (heed : Heed desk task after next) : after.store = desk.store := by
  cases heed <;> rfl

omit [RankedStore σ β] in
theorem Heed.calls_eq (heed : Heed desk task after next) : after.calls = desk.calls := by
  cases heed <;> rfl

/-- A bound on the steps that a task takes on its way out. -/
def Task.heedLeft (task : Task β) : Nat :=
  (match task.point with
    | .building build _ => build.stepsLeft
    | _ => 0) + task.cancelled.toNat

omit [RankedStore σ β] in
/-- **A task that has been told to stop comes closer to its end.** -/
theorem Heed.heedLeft_lt (heed : Heed desk task after next) : next.heedLeft < task.heedLeft := by
  cases heed with
  | stops told idle =>
      simp only [Task.heedLeft, told]
      exact Nat.succ_pos _
  | closes point _ _ closer =>
      simpa [Task.heedLeft, point] using closer
  | closed point closer =>
      simpa [Task.heedLeft, point] using closer

end Steps

end Typeahead.Schedule
