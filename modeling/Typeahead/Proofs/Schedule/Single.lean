import Typeahead.Proofs.Index.Faults
import Typeahead.Proofs.Index.Trace
import Typeahead.Proofs.Schedule.Stepping
import Typeahead.Schedule.Indexer

/-!
# A task that runs alone

When no other task is due, a task takes all its steps one after another
(`Supervisor.Lone.runTask`).  A single run that is alone comes to the end of
the build of its feed: with the same store, the same notices and the same ending
as if the build were run at once (`Supervisor.runOnce_of_feed`).  If there is no
feed it is done at once.  What a run does that has waited for its store can thus
be told without its steps (`runAtOnce`, `Supervisor.Idle.runWhenReady_eq`).
-/

namespace Typeahead.Index.Build

open Typeahead.Store

set_option autoImplicit false

variable {σ β : Type} [RankedStore σ β]

/-! ## Builds -/

/-- A build comes to its end: with a store, an ending, and the notices on the way. -/
inductive Ends : σ → Build β → σ → Ending → List Notice → Prop where
  | here {store : σ} {build : Build β} {ending : Ending} (ended : build.ending? = some ending) :
      Ends store build store ending []
  | step {store final : σ} {build : Build β} {ending : Ending} {notices : List Notice}
      (going : build.ending? = none)
      (rest : Ends (build.step store).1 (build.step store).2.1 final ending notices) :
      Ends store build final ending ((build.step store).2.2 ++ notices)

theorem ends_runFor {steps : Nat} (store : σ) {build : Build β} {ending : Ending}
    (stage : (runFor steps store build).2.1.stage = .finished ending) :
    Ends store build (runFor steps store build).1 ending (runFor steps store build).2.2 := by
  induction steps generalizing store build with
  | zero => exact .here (ending?_eq_some_iff.mpr stage)
  | succ steps inductionHypothesis =>
    cases ended : build.ending? with
    | some other =>
      rw [runFor_of_over ended] at stage ⊢
      exact .here (ending?_eq_some_iff.mpr stage)
    | none =>
      simp only [runFor, ended] at stage ⊢
      exact .step ended (inductionHypothesis _ stage)

end Typeahead.Index.Build

namespace Typeahead.Schedule

open Typeahead.Catalog Typeahead.Index Typeahead.Store

set_option autoImplicit false

variable {σ β : Type}

/-- The build of a feed comes to the end that is reported. -/
theorem ends_buildIndex [RankedStore σ β] (enumeration : Enumeration) {store : σ} {batchSize : Int}
    {writer : Writer β} (opened : Writer.open? store batchSize = .ok writer) (feed : Feed) :
    ∃ notices, Build.Ends store (Build.fresh enumeration writer feed)
        (buildIndex enumeration store batchSize feed).store
        (buildIndex enumeration store batchSize feed).ending notices ∧
      (buildIndex enumeration store batchSize feed).notices =
        beginNotice :: feed.opening.toList ++ notices := by
  refine ⟨((Build.fresh enumeration writer feed).run store).2.2, ?_, ?_⟩
  · rw [store_buildIndex_of_open opened]
    exact Build.ends_runFor store (stage_run_of_open opened)
  · simp only [buildIndex, Build.start, opened, Build.fresh]

/-! ## Tasks -/

@[simp]
theorem Desk.notices_report (desk : Desk σ) (notices : List Notice) :
    (desk.report notices).notices = desk.notices ++ notices := by
  simp [Desk.notices, Desk.report, Function.comp_def]

/-- A task that runs alone is done at last, and leaves a desk. -/
inductive Task.Ends [RankedStore σ β] (plan : Plan) (feeds : Nat → Except String Feed) :
    Desk σ → Task β → Desk σ → Task β → Prop where
  | here {desk : Desk σ} {task : Task β} (done : task.result?.isSome = true) :
      Ends plan feeds desk task desk task
  | step {desk final : Desk σ} {task last : Task β} (going : task.result? = none)
      (rest : Ends plan feeds (task.step plan feeds (desk.moved task.wake.time)).1
        (task.step plan feeds (desk.moved task.wake.time)).2 final last) :
      Ends plan feeds desk task final last

namespace Supervisor

variable {supervisor : Supervisor σ β} {place : Nat} {task next : Task β} {desk : Desk σ}

/-- There is a task at the place, and no other is due. -/
structure Lone (supervisor : Supervisor σ β) (place : Nat) (task : Task β) : Prop where
  here : supervisor.task? place = some task
  others : ∀ other, other ≠ place → supervisor.wake? other = none

theorem Lone.put (lone : supervisor.Lone place task) (desk : Desk σ) (next : Task β) :
    (supervisor.put place desk next).Lone place next where
  here := task?_put_self lone.here
  others other distinct := by
    rw [wake?, task?_put_of_ne distinct]
    exact lone.others other distinct

theorem put_put (first second : Desk σ) (task next : Task β) :
    (supervisor.put place first task).put place second next = supervisor.put place second next := by
  simp only [Supervisor.put, List.set_set]

theorem put_self (found : supervisor.task? place = some task) :
    supervisor.put place supervisor.desk task = supervisor := by
  obtain ⟨inside, there⟩ := List.getElem?_eq_some_iff.mp found
  rw [Supervisor.put, ← there, List.set_getElem_self]

theorem result?_put (found : supervisor.task? place = some task) (desk : Desk σ) (next : Task β) :
    (supervisor.put place desk next).result? place = next.result? := by
  rw [result?, task?_put_self found]
  rfl

/-- The better of what is due first so far and the task at a place. -/
def soonerOf (supervisor : Supervisor σ β) (best : Option (Nat × Wake)) (place : Nat) :
    Option (Nat × Wake) :=
  match best, supervisor.wake? place with
  | none, some wake => some (place, wake)
  | some (other, least), some wake =>
      if wake.before least then some (place, wake) else some (other, least)
  | best, none => best

theorem Lone.foldl_soonerOf (lone : supervisor.Lone place task) (going : task.result? = none)
    (places : List Nat) {best : Option (Nat × Wake)}
    (known : best = none ∨ best = some (place, task.wake)) :
    places.foldl supervisor.soonerOf best =
      if place ∈ places then some (place, task.wake) else best := by
  have wakes : supervisor.wake? place = some task.wake := by
    simp [wake?, lone.here, going]
  have notBefore : task.wake.before task.wake = false := by simp [Wake.before]
  induction places generalizing best with
  | nil => rfl
  | cons other places inductionHypothesis =>
    rw [List.foldl_cons]
    by_cases same : other = place
    · subst same
      have chosen : supervisor.soonerOf best other = some (other, task.wake) := by
        rcases known with rfl | rfl
        · simp only [soonerOf, wakes]
        · simp only [soonerOf, wakes, notBefore, Bool.false_eq_true, if_false]
      rw [chosen, inductionHypothesis (.inr rfl), if_pos List.mem_cons_self, ite_self]
    · have kept : supervisor.soonerOf best other = best := by
        unfold soonerOf
        rw [lone.others other same]
        cases best <;> rfl
      rw [kept, inductionHypothesis known]
      simp only [List.mem_cons, Ne.symm same, false_or]

/-- The task that is alone is due first as long as it is not done. -/
theorem Lone.first? (lone : supervisor.Lone place task) (going : task.result? = none) :
    supervisor.first? = some (place, task.wake) := by
  have inside : place < supervisor.tasks.length := (List.getElem?_eq_some_iff.mp lone.here).1
  change (List.range supervisor.tasks.length).foldl supervisor.soonerOf none = _
  rw [lone.foldl_soonerOf going _ (.inl rfl), if_pos (List.mem_range.mpr inside)]

theorem Lone.result?_eq (lone : supervisor.Lone place task) :
    supervisor.result? place = task.result? := by
  rw [result?, lone.here]
  rfl

section Steps

variable [RankedStore σ β]

theorem Lone.stepTask (lone : supervisor.Lone place task) (time : Rat) :
    (supervisor.moveClock time).stepTask place =
      supervisor.put place
        (task.step supervisor.plan supervisor.feeds (supervisor.desk.moved time)).1
        (task.step supervisor.plan supervisor.feeds (supervisor.desk.moved time)).2 := by
  have found : (supervisor.moveClock time).task? place = some task := lone.here
  rw [stepTask_of_some found]
  rfl

theorem Lone.runTask_succ (lone : supervisor.Lone place task) (going : task.result? = none)
    (steps : Nat) :
    supervisor.runTask place (steps + 1) =
      (supervisor.put place
        (task.step supervisor.plan supervisor.feeds (supervisor.desk.moved task.wake.time)).1
        (task.step supervisor.plan supervisor.feeds
          (supervisor.desk.moved task.wake.time)).2).runTask place steps := by
  conv_lhs => unfold runTask
  simp only [lone.result?_eq, going, Option.isSome_none, Bool.false_eq_true, if_false,
    lone.first? going, lone.stepTask]

theorem Lone.runTask_of_done (lone : supervisor.Lone place task)
    (done : task.result?.isSome = true) (steps : Nat) :
    supervisor.runTask place steps = supervisor := by
  cases steps with
  | zero => rfl
  | succ steps =>
    unfold Supervisor.runTask
    rw [if_pos (by rwa [lone.result?_eq])]

/-- **A task that is alone comes to its end, if it takes steps enough.** -/
theorem Lone.runTask (lone : supervisor.Lone place task) {final : Desk σ} {last : Task β}
    (ends : task.Ends supervisor.plan supervisor.feeds supervisor.desk final last) :
    (∀ steps, (supervisor.runTask place steps).result? place = none ∨
      supervisor.runTask place steps = supervisor.put place final last) ∧
    ∃ enough, ∀ steps, enough ≤ steps →
      supervisor.runTask place steps = supervisor.put place final last := by
  generalize samePlan : supervisor.plan = plan at ends
  generalize sameFeeds : supervisor.feeds = feeds at ends
  generalize shared : supervisor.desk = desk at ends
  induction ends generalizing supervisor with
  | @here desk task done =>
    subst shared
    rw [put_self lone.here]
    exact ⟨fun steps => .inr (lone.runTask_of_done done steps), 0,
      fun steps _ => lone.runTask_of_done done steps⟩
  | @step desk final task last going rest inductionHypothesis =>
    subst shared
    have goesOn := lone.runTask_succ going
    rw [samePlan, sameFeeds] at goesOn
    obtain ⟨always, enough, ended⟩ := inductionHypothesis (lone.put _ _) samePlan sameFeeds rfl
    simp only [put_put] at always ended
    refine ⟨fun steps => ?_, enough + 1, fun steps many => ?_⟩
    · cases steps with
      | zero => exact .inl (lone.result?_eq.trans going)
      | succ steps =>
        rw [goesOn]
        exact always steps
    · cases steps with
      | zero => exact absurd many (Nat.not_succ_le_zero enough)
      | succ steps =>
        rw [goesOn]
        exact ended steps (Nat.le_of_succ_le_succ many)

/-- A task that is alone and is done after some steps has come to its end. -/
theorem Lone.exists_ends (lone : supervisor.Lone place task) {steps : Nat}
    (done : ((supervisor.runTask place steps).result? place).isSome = true) :
    ∃ final last, task.Ends supervisor.plan supervisor.feeds supervisor.desk final last := by
  induction steps generalizing supervisor task with
  | zero =>
    have isDone : task.result?.isSome = true := by rwa [← lone.result?_eq]
    exact ⟨_, _, .here isDone⟩
  | succ steps inductionHypothesis =>
    cases going : task.result? with
    | some result => exact ⟨_, _, .here (by rw [going]; rfl)⟩
    | none =>
      rw [lone.runTask_succ going] at done
      obtain ⟨final, last, rest⟩ := inductionHypothesis (lone.put _ _) done
      exact ⟨final, last, .step going rest⟩

end Steps

end Supervisor

/-! ## Single runs -/

variable {plan : Plan} {feeds : Nat → Except String Feed} {desk : Desk σ} {task : Task β}

/-- What a single run leaves that comes to the end of a build. -/
def resultOf : Ending → Result
  | .built counters => .built counters
  | .failed .cancelled => .stopped
  | .failed fault => .failed (.build fault)

/-- What a single run gives and leaves of its store, told without its steps: if there is no feed
there is no build. -/
def runAtOnce [RankedStore σ β] (plan : Plan) (found : Except String Feed) (store : σ) :
    Result × σ :=
  match found with
  | .error reason => (.failed (.noFeed reason), store)
  | .ok feed =>
      let whole := buildIndex plan.enumeration store plan.batchSize feed
      (resultOf whole.ending, whole.store)

/-- The task is a single run that has not been told to stop. -/
structure Task.RunsOnce (task : Task β) : Prop where
  role : task.role = .once
  heard : task.cancelled = false

/-- A single run that is due now, before it asks for its feed. -/
def Task.newRun (now : Rat) : Task β := { role := .once, point := .opening none, wake := ⟨now, 0⟩ }

theorem Task.runsOnce_newRun (now : Rat) : (Task.newRun now : Task β).RunsOnce := ⟨rfl, rfl⟩

/-- The desk and the task are left by a build that has come to its end. -/
structure Concludes (desk : Desk σ) (store : σ) (ending : Ending) (notices : List Notice)
    (after : Desk σ) (last : Task β) : Prop where
  store : after.store = store
  notices : after.notices = desk.notices ++ notices
  result : last.result? = some (resultOf ending)

/-- What comes after a step counts from the desk before the step. -/
theorem Concludes.of_step {before desk after : Desk σ} {store : σ} {ending : Ending}
    {first notices : List Notice} {last : Task β}
    (concludes : Concludes desk store ending notices after last)
    (reported : desk.notices = before.notices ++ first) :
    Concludes before store ending (first ++ notices) after last :=
  ⟨concludes.store, by rw [concludes.notices, reported, List.append_assoc], concludes.result⟩

theorem Task.RunsOnce.concludes_continue (once : task.RunsOnce) (plan : Plan) (desk : Desk σ)
    {build : Build β} {ending : Ending} (ended : build.ending? = some ending)
    (ticker : Option Ticker) :
    Concludes desk desk.store ending [] (task.continue plan desk build ticker).1
      (task.continue plan desk build ticker).2 := by
  obtain ⟨role, -⟩ := once
  unfold Task.continue
  simp only [ended]
  cases ending with
  | built counters =>
    simp only [Task.afterRun, role]
    exact ⟨rfl, (List.append_nil _).symm, rfl⟩
  | failed fault =>
    cases fault with
    | cancelled => exact ⟨rfl, (List.append_nil _).symm, rfl⟩
    | _ =>
      simp only [Task.afterRun, role]
      exact ⟨rfl, (List.append_nil _).symm, rfl⟩

section Steps

variable [RankedStore σ β]

/-- The step of a single run that builds is a step of its build. -/
theorem Task.RunsOnce.step_of_building (once : task.RunsOnce) (plan : Plan)
    (feeds : Nat → Except String Feed) (desk : Desk σ) {build : Build β} {ticker : Option Ticker}
    (point : task.point = .building build ticker) :
    ((build.step desk.store).2.1.ending? = none →
      (task.step plan feeds desk).1.store = (build.step desk.store).1 ∧
        (task.step plan feeds desk).1.notices = desk.notices ++ (build.step desk.store).2.2 ∧
        (task.step plan feeds desk).2.RunsOnce ∧
        (task.step plan feeds desk).2.point = .building (build.step desk.store).2.1 ticker) ∧
    ∀ ending, (build.step desk.store).2.1.ending? = some ending →
      Concludes desk (build.step desk.store).1 ending (build.step desk.store).2.2
        (task.step plan feeds desk).1 (task.step plan feeds desk).2 := by
  have reported : (Desk.report { desk with store := (build.step desk.store).1 }
      (build.step desk.store).2.2).notices = desk.notices ++ (build.step desk.store).2.2 :=
    Desk.notices_report _ _
  simp only [Task.step, once.heard, Bool.false_eq_true, if_false, Task.advance, point]
  cases pause : build.pause? with
  | some seconds =>
    refine ⟨fun _ => ⟨rfl, reported, ⟨once.role, once.heard⟩, rfl⟩, fun ending ended => ?_⟩
    rw [Build.ending?_step_of_pause pause] at ended
    cases ended
  | none =>
    refine ⟨fun going => ?_, fun ending ended => ?_⟩
    · simp only [Task.continue, going]
      exact ⟨rfl, reported, ⟨once.role, once.heard⟩, trivial⟩
    · have concludes := (once.concludes_continue plan (Desk.report
        { desk with store := (build.step desk.store).1 } (build.step desk.store).2.2) ended
        ticker).of_step reported
      rwa [List.append_nil] at concludes

/-- A single run that builds goes on to the end of its build. -/
theorem exists_ends_of_building (plan : Plan) (feeds : Nat → Except String Feed) {store final : σ}
    {build : Build β} {ending : Ending} {notices : List Notice}
    (ends : build.Ends store final ending notices)
    (going : build.ending? = none) (once : task.RunsOnce) {ticker : Option Ticker}
    (point : task.point = .building build ticker) (same : desk.store = store) :
    ∃ after last, task.Ends plan feeds desk after last ∧
      Concludes desk final ending notices after last := by
  induction ends generalizing desk task with
  | here ended => exact nomatch going.symm.trans ended
  | @step store final build ending notices _ rest inductionHypothesis =>
    have unfinished : task.result? = none := by simp only [Task.result?, point]
    have store_moved : (desk.moved task.wake.time).store = store := same
    obtain ⟨goesOn, ends⟩ := once.step_of_building plan feeds (desk.moved task.wake.time) point
    rw [store_moved] at goesOn ends
    cases ended : (build.step store).2.1.ending? with
    | none =>
      obtain ⟨stored, reported, stillOnce, stillBuilding⟩ := goesOn ended
      obtain ⟨after, last, run, concludes⟩ :=
        inductionHypothesis ended stillOnce stillBuilding stored
      exact ⟨after, last, .step unfinished run, concludes.of_step reported⟩
    | some other =>
      have left := ends other ended
      cases rest with
      | here sameEnding =>
        obtain rfl := Option.some.inj (ended.symm.trans sameEnding)
        rw [List.append_nil]
        exact ⟨_, _, .step unfinished (.here (by rw [left.result]; rfl)), left.store, left.notices,
          left.result⟩
      | step stillGoing _ => exact nomatch stillGoing.symm.trans ended

/-- A single run that asks for its feed and gets it comes to the end of the build of the feed. -/
theorem exists_ends_of_opening (plan : Plan) {feed : Feed} (found : feeds desk.calls = .ok feed)
    (once : task.RunsOnce) {ticker : Option Ticker} (point : task.point = .opening ticker) :
    ∃ after last, task.Ends plan feeds desk after last ∧
      Concludes desk (buildIndex plan.enumeration desk.store plan.batchSize feed).store
        (buildIndex plan.enumeration desk.store plan.batchSize feed).ending
        (buildIndex plan.enumeration desk.store plan.batchSize feed).notices after last := by
  have unfinished : task.result? = none := by simp only [Task.result?, point]
  have opens : task.step plan feeds (desk.moved task.wake.time) =
      task.open plan feeds (desk.moved task.wake.time) ticker := by
    simp only [Task.step, once.heard, Bool.false_eq_true, if_false, Task.advance, point]
  cases opened : Writer.open? desk.store plan.batchSize with
  | error fault =>
    have whole : buildIndex plan.enumeration desk.store plan.batchSize feed =
        ⟨desk.store, .failed (.size fault), [beginNotice]⟩ := by
      simp only [buildIndex, Build.start, opened]
    have refused : task.open plan feeds (desk.moved task.wake.time) ticker =
        (((desk.moved task.wake.time).asked.report [beginNotice]).record (failure (.size fault)),
          { task with point := .done (.failed (.build (.size fault))) }) := by
      simp only [Task.open, found, Build.start, Desk.moved, opened, Task.afterRun, once.role]
      rfl
    rw [whole]
    refine ⟨_, _, .step unfinished (.here ?_), ?_⟩
    · rw [opens, refused]
      rfl
    · rw [opens, refused]
      exact ⟨rfl, Desk.notices_report _ _, rfl⟩
  | ok writer =>
    obtain ⟨notices, ends, reported⟩ := ends_buildIndex plan.enumeration opened feed
    have begun : task.open plan feeds (desk.moved task.wake.time) ticker =
        ((desk.moved task.wake.time).asked.report (beginNotice :: feed.opening.toList),
          { task with point := .building (Build.fresh plan.enumeration writer feed) ticker }) := by
      simp only [Task.open, found, Build.start, Desk.moved, opened]
      rfl
    have stillOnce : Task.RunsOnce
        { task with point := .building (Build.fresh plan.enumeration writer feed) ticker } :=
      ⟨once.role, once.heard⟩
    have stored : ((desk.moved task.wake.time).asked.report
        (beginNotice :: feed.opening.toList)).store = desk.store := rfl
    obtain ⟨after, last, run, concludes⟩ := exists_ends_of_building plan feeds ends rfl stillOnce
      rfl stored
    rw [reported]
    refine ⟨after, last, .step unfinished ?_, concludes.of_step (Desk.notices_report _ _)⟩
    rw [opens, begun]
    exact run

/-- A single run that asks for its feed and gets none is done. -/
theorem exists_ends_of_noFeed (plan : Plan) {reason : String}
    (missing : feeds desk.calls = .error reason) (once : task.RunsOnce) {ticker : Option Ticker}
    (point : task.point = .opening ticker) :
    ∃ after last, task.Ends plan feeds desk after last ∧ after.store = desk.store ∧
      last.result? = some (.failed (.noFeed reason)) := by
  have unfinished : task.result? = none := by simp only [Task.result?, point]
  have refused : task.step plan feeds (desk.moved task.wake.time) =
      ((desk.moved task.wake.time).asked,
        { task with point := .done (.failed (.noFeed reason)) }) := by
    simp only [Task.step, once.heard, Bool.false_eq_true, if_false, Task.advance, point, Task.open,
      Desk.moved, missing, Task.afterRun, once.role]
    rfl
  refine ⟨_, _, .step unfinished (.here ?_), ?_⟩
  · rw [refused]
    rfl
  · rw [refused]
    exact ⟨rfl, rfl⟩

/-! ## Waiting for the store -/

/-- A store answers one of the pings that follow, and this is what is left of it then. -/
inductive Answers : σ → σ → Prop where
  | now {store : σ} (ready : (RankedStore.ping store).1 = .ok ()) :
      Answers store (RankedStore.ping store).2
  | later {store final : σ} {fault : PingFault}
      (refused : (RankedStore.ping store).1 = .error fault)
      (rest : Answers (RankedStore.ping store).2 final) : Answers store final

/-- What is left of a store that has answered is determined. -/
theorem Answers.unique {store first second : σ} (one : Answers store first)
    (other : Answers store second) : first = second := by
  induction one with
  | now ready =>
    cases other with
    | now _ => rfl
    | later refused _ => exact nomatch ready.symm.trans refused
  | later refused _ inductionHypothesis =>
    cases other with
    | now ready => exact nomatch ready.symm.trans refused
    | later _ rest => exact inductionHypothesis rest

/-- A task that waits for the store. -/
structure Task.Waits (task : Task β) : Prop where
  role : task.role = .ready
  heard : task.cancelled = false
  point : task.point = .polling

theorem Task.Waits.result?_eq (waits : task.Waits) : task.result? = none := by
  simp only [Task.result?, waits.point]

/-- A ping that is refused leaves the task waiting. -/
theorem Task.Waits.exists_step_of_refused (waits : task.Waits) (plan : Plan)
    (feeds : Nat → Except String Feed) {fault : PingFault}
    (refused : (RankedStore.ping desk.store).1 = .error fault) :
    (task.step plan feeds (desk.moved task.wake.time)).2.Waits ∧
      (task.step plan feeds (desk.moved task.wake.time)).1.store =
        (RankedStore.ping desk.store).2 ∧
      (task.step plan feeds (desk.moved task.wake.time)).1.calls = desk.calls := by
  simp only [Task.step, waits.heard, Bool.false_eq_true, if_false, Task.advance, waits.point,
    Task.poll, Desk.moved, refused]
  exact ⟨⟨waits.role, waits.heard, rfl⟩, rfl, rfl⟩

/-- A task that waits for a store is done when the store answers. -/
theorem Answers.exists_ends {store final : σ} (answers : Answers store final) (plan : Plan)
    (feeds : Nat → Except String Feed) {task : Task β} (waits : task.Waits)
    (same : desk.store = store) :
    ∃ after last, task.Ends plan feeds desk after last ∧ after.store = final ∧
      after.calls = desk.calls ∧ last.result? = some .storeReady := by
  induction answers generalizing desk task with
  | @now store ready =>
    subst same
    have done : task.step plan feeds (desk.moved task.wake.time) =
        ((desk.moved task.wake.time).pinged, { task with point := .done .storeReady }) := by
      simp only [Task.step, waits.heard, Bool.false_eq_true, if_false, Task.advance, waits.point,
        Task.poll, Desk.moved, ready, waits.role]
      rfl
    refine ⟨_, _, .step waits.result?_eq (.here ?_), ?_⟩
    · rw [done]
      rfl
    · rw [done]
      exact ⟨rfl, rfl, rfl⟩
  | @later store final fault refused rest inductionHypothesis =>
    subst same
    obtain ⟨stillWaits, stored, called⟩ := waits.exists_step_of_refused plan feeds refused
    obtain ⟨after, last, run, left, asked, done⟩ := inductionHypothesis stillWaits stored
    exact ⟨after, last, .step waits.result?_eq run, left, asked.trans called, done⟩

/-- A store that a task has waited for has answered. -/
theorem Task.Ends.exists_answers {feeds : Nat → Except String Feed} {final : Desk σ}
    {last : Task β} (ends : task.Ends plan feeds desk final last) (waits : task.Waits) :
    ∃ store, Answers desk.store store := by
  induction ends with
  | here done =>
    rw [waits.result?_eq] at done
    exact nomatch done
  | @step desk final task last going rest inductionHypothesis =>
    cases ping : (RankedStore.ping desk.store).1 with
    | ok _ => exact ⟨_, .now ping⟩
    | error fault =>
      obtain ⟨stillWaits, stored, -⟩ := waits.exists_step_of_refused plan feeds ping
      obtain ⟨store, answers⟩ := inductionHypothesis stillWaits
      rw [stored] at answers
      exact ⟨store, .later ping answers⟩

end Steps

/-! ## Runs -/

namespace Supervisor

variable {supervisor : Supervisor σ β}

/-- No task is due. -/
def Idle (supervisor : Supervisor σ β) : Prop := ∀ place, supervisor.wake? place = none

theorem Idle.lone_addFirst (idle : supervisor.Idle) (role : Role) (point : Point β) :
    (supervisor.addFirst role point).Lone supervisor.tasks.length
      { role, point, wake := ⟨supervisor.desk.now, 0⟩ } where
  here := List.getElem?_concat_length
  others other distinct := by
    rw [wake?, task?, addFirst]
    rcases Nat.lt_or_gt_of_ne distinct with earlier | later
    · rw [List.getElem?_append_left earlier]
      exact idle other
    · rw [List.getElem?_eq_none (by rw [List.length_append]; exact later)]
      rfl

theorem Lone.idle_put {place : Nat} {task last : Task β} (lone : supervisor.Lone place task)
    (done : last.result?.isSome = true) (desk : Desk σ) :
    (supervisor.put place desk last).Idle := by
  intro other
  by_cases same : other = place
  · subst same
    obtain ⟨result, ended⟩ := Option.isSome_iff_exists.mp done
    simp [wake?, task?_put_self lone.here, ended]
  · exact (lone.put desk last).others other same

section Steps

variable [RankedStore σ β]

/-- Waiting for a store that answers ends when it does, with no task that is due. -/
theorem waitForStore_of_answers (idle : supervisor.Idle) {final : σ}
    (answers : Answers supervisor.desk.store final) :
    ∃ waited : Supervisor σ β, waited.Idle ∧ waited.plan = supervisor.plan ∧
      waited.feeds = supervisor.feeds ∧ waited.desk.store = final ∧
      waited.desk.calls = supervisor.desk.calls ∧
      waited.result? supervisor.tasks.length = some .storeReady ∧
      (∀ steps, (supervisor.waitForStore steps).result? supervisor.tasks.length = none ∨
        supervisor.waitForStore steps = waited) ∧
      ∃ enough, ∀ steps, enough ≤ steps → supervisor.waitForStore steps = waited := by
  have lone := idle.lone_addFirst .ready .polling
  have waits : Task.Waits
      ({ role := .ready, point := .polling, wake := ⟨supervisor.desk.now, 0⟩ } : Task β) :=
    ⟨rfl, rfl, rfl⟩
  obtain ⟨after, last, ends, left, asked, done⟩ :=
    answers.exists_ends supervisor.plan supervisor.feeds waits rfl
  obtain ⟨always, enough, ended⟩ := lone.runTask ends
  exact ⟨_, lone.idle_put (by rw [done]; rfl) after, rfl, rfl, left, asked,
    (result?_put lone.here after last).trans done, always, enough, ended⟩

/-- The wait for a store ends only if the store answers. -/
theorem exists_answers_of_waitForStore (idle : supervisor.Idle) {steps : Nat}
    (done : ((supervisor.waitForStore steps).result? supervisor.tasks.length).isSome = true) :
    ∃ final, Answers supervisor.desk.store final := by
  obtain ⟨final, last, ends⟩ := (idle.lone_addFirst .ready .polling).exists_ends done
  exact ends.exists_answers ⟨rfl, rfl, rfl⟩

/-- What a single run that is alone gives, if it takes steps enough. -/
theorem Idle.runOnce_of_ends (idle : supervisor.Idle) {after : Desk σ} {last : Task β}
    (ends : (Task.newRun supervisor.desk.now).Ends supervisor.plan supervisor.feeds supervisor.desk
      after last)
    {result : Result} (done : last.result? = some result) :
    (∀ steps, (supervisor.runOnce steps).2 = none ∨
      (supervisor.runOnce steps).2 = some result ∧ (supervisor.runOnce steps).1.desk = after) ∧
    ∃ enough, ∀ steps, enough ≤ steps → (supervisor.runOnce steps).2 ≠ none := by
  have lone := idle.lone_addFirst .once (.opening none)
  obtain ⟨always, enough, ended⟩ := lone.runTask ends
  have given := (result?_put lone.here after last).trans done
  refine ⟨fun steps => ?_, enough, fun steps many => ?_⟩
  · rcases always steps with unfinished | finished
    · exact .inl unfinished
    · right
      simp only [runOnce, finished, given]
      exact ⟨trivial, rfl⟩
  · simp only [runOnce, ended steps many, given, ne_eq, reduceCtorEq, not_false_eq_true]

/-- **A single run that is alone comes to the end of the build of its feed.** -/
theorem runOnce_of_feed (idle : supervisor.Idle) {feed : Feed}
    (found : supervisor.feeds supervisor.desk.calls = .ok feed) {whole : BuildResult σ}
    (built : buildIndex supervisor.plan.enumeration supervisor.desk.store
      supervisor.plan.batchSize feed = whole) :
    (∀ steps, (supervisor.runOnce steps).2 = none ∨
      (supervisor.runOnce steps).2 = some (resultOf whole.ending) ∧
        (supervisor.runOnce steps).1.desk.store = whole.store ∧
        (supervisor.runOnce steps).1.notices = supervisor.notices ++ whole.notices) ∧
    ∃ enough, ∀ steps, enough ≤ steps → (supervisor.runOnce steps).2 ≠ none := by
  obtain ⟨after, last, ends, concludes⟩ :=
    exists_ends_of_opening supervisor.plan found (Task.runsOnce_newRun supervisor.desk.now) rfl
  rw [built] at concludes
  obtain ⟨always, ended⟩ := idle.runOnce_of_ends ends concludes.result
  refine ⟨fun steps => ?_, ended⟩
  rcases always steps with unfinished | ⟨result, left⟩
  · exact .inl unfinished
  · refine .inr ⟨result, ?_, ?_⟩
    · rw [left]
      exact concludes.store
    · rw [notices, left]
      exact concludes.notices

/-- A single run that has no feed leaves the store as it is. -/
theorem runOnce_of_noFeed (idle : supervisor.Idle) {reason : String}
    (missing : supervisor.feeds supervisor.desk.calls = .error reason) :
    (∀ steps, (supervisor.runOnce steps).2 = none ∨
      (supervisor.runOnce steps).2 = some (.failed (.noFeed reason)) ∧
        (supervisor.runOnce steps).1.desk.store = supervisor.desk.store) ∧
    ∃ enough, ∀ steps, enough ≤ steps → (supervisor.runOnce steps).2 ≠ none := by
  obtain ⟨after, last, ends, kept, done⟩ :=
    exists_ends_of_noFeed supervisor.plan missing (Task.runsOnce_newRun supervisor.desk.now) rfl
  obtain ⟨always, ended⟩ := idle.runOnce_of_ends ends done
  refine ⟨fun steps => ?_, ended⟩
  rcases always steps with unfinished | ⟨result, left⟩
  · exact .inl unfinished
  · exact .inr ⟨result, by rw [left, kept]⟩

/-- A single run that is alone does what can be told at once. -/
theorem Idle.runOnce_eq (idle : supervisor.Idle) :
    (∀ steps result, (supervisor.runOnce steps).2 = some result →
      (result, (supervisor.runOnce steps).1.desk.store) = runAtOnce supervisor.plan
        (supervisor.feeds supervisor.desk.calls) supervisor.desk.store) ∧
    ∃ enough, ∀ steps, enough ≤ steps → (supervisor.runOnce steps).2 ≠ none := by
  cases found : supervisor.feeds supervisor.desk.calls with
  | error reason =>
    obtain ⟨always, ends⟩ := runOnce_of_noFeed idle found
    refine ⟨fun steps result ran => ?_, ends⟩
    rcases always steps with unfinished | ⟨finished, stored⟩
    · exact nomatch unfinished.symm.trans ran
    · rw [Option.some.inj (ran.symm.trans finished), stored]
      rfl
  | ok feed =>
    obtain ⟨always, ends⟩ := runOnce_of_feed idle found rfl
    refine ⟨fun steps result ran => ?_, ends⟩
    rcases always steps with unfinished | ⟨finished, stored, -⟩
    · exact nomatch unfinished.symm.trans ran
    · rw [Option.some.inj (ran.symm.trans finished), stored]
      rfl

/-! ## Runs on a store that is waited for -/

/-- Waits until the store answers and then builds once: what is left, and what came of it. -/
def runWhenReady (steps : Nat) (supervisor : Supervisor σ β) : Option (Supervisor σ β × Result) :=
  let waited := supervisor.waitForStore steps
  match waited.result? supervisor.tasks.length with
  | none => none
  | some _ => (waited.runOnce steps).2.map fun result => ((waited.runOnce steps).1, result)

/-- A run that has waited for the store has waited until the store answered. -/
theorem Idle.exists_answers (idle : supervisor.Idle) {steps : Nat}
    {ended : Supervisor σ β × Result} (ran : supervisor.runWhenReady steps = some ended) :
    ∃ final, Answers supervisor.desk.store final := by
  have waited : ((supervisor.waitForStore steps).result?
      supervisor.tasks.length).isSome = true := by
    cases ready : (supervisor.waitForStore steps).result? supervisor.tasks.length with
    | none => simp only [runWhenReady, ready, reduceCtorEq] at ran
    | some result => rfl
  exact exists_answers_of_waitForStore idle waited

/-- **A run that waits for its store does what can be told at once of the store that has answered,
and it ends if the store answers.** -/
theorem Idle.runWhenReady_eq (idle : supervisor.Idle) {final : σ}
    (answers : Answers supervisor.desk.store final) :
    (∀ steps after result, supervisor.runWhenReady steps = some (after, result) →
      (result, after.desk.store) = runAtOnce supervisor.plan
        (supervisor.feeds supervisor.desk.calls) final) ∧
    ∃ enough, ∀ steps, enough ≤ steps → supervisor.runWhenReady steps ≠ none := by
  obtain ⟨waited, stillIdle, plan, feeds, left, called, ready, always, enough, ended⟩ :=
    waitForStore_of_answers idle answers
  obtain ⟨results, many, finishes⟩ := stillIdle.runOnce_eq
  rw [plan, feeds, left, called] at results
  refine ⟨fun steps after result ran => ?_, max enough many, fun steps most => ?_⟩
  · rcases always steps with unready | waits
    · simp only [runWhenReady, unready, reduceCtorEq] at ran
    · simp only [runWhenReady, waits, ready] at ran
      obtain ⟨given, finished, same⟩ := Option.map_eq_some_iff.mp ran
      obtain ⟨rfl, rfl⟩ := Prod.mk.inj same
      exact results steps given finished
  · have finished := finishes steps (Nat.le_trans (Nat.le_max_right enough many) most)
    simp only [runWhenReady, ended steps (Nat.le_trans (Nat.le_max_left enough many) most), ready,
      ne_eq, Option.map_eq_none_iff]
    exact finished

end Steps

end Supervisor

end Typeahead.Schedule
