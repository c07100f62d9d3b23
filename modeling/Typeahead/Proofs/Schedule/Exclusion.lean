import Typeahead.Proofs.Schedule.Recording
import Typeahead.Proofs.Schedule.Stepping

/-!
# One build at a time

Several parties start and stop one supervisor, in any order with the steps of the
tasks that this makes.  Whoever stops it forgets the keeper and tells it to stop; the
keeper may then need some more steps to close the feed of its build, and whoever
starts the supervisor meanwhile adds another keeper beside it.

Whatever the order, no task but the keeper that the supervisor remembers writes to
the store or begins a build (`Guarded`).  If the supervisor is never started while an
earlier keeper is still on its way out (`isPatient`), then at most one build is in
progress at any time, and the status is building exactly when one is
(`one_build_at_a_time`).

Without this condition both are lost: two builds can be in progress at once, and the
one that ends first leaves the status idle while the other goes on
(`two_builds_at_a_time`).
-/

namespace Typeahead.Schedule

open Typeahead.Catalog Typeahead.Index Typeahead.Store

set_option autoImplicit false

variable {σ β : Type}

/-- What can happen to a supervisor. -/
inductive Act where
  | start
  /-- the keeper is forgotten and told to stop -/
  | detach
  /-- it goes on -/
  | goes (pace : Pace)
  deriving DecidableEq, Repr, Inhabited

namespace Supervisor

/-- All tasks but the keeper that is remembered are done. -/
def isSettled (supervisor : Supervisor σ β) : Bool :=
  (List.range supervisor.tasks.length).all fun place =>
    supervisor.current == some place || (supervisor.result? place).isSome

section Acts

variable [RankedStore σ β]

/-- One thing happens to a supervisor. -/
def act (supervisor : Supervisor σ β) : Act → Supervisor σ β
  | .start => supervisor.start
  | .detach => supervisor.detach
  | .goes pace => supervisor.pace pace

/-- Things happen to a supervisor, one after the other. -/
def acts (supervisor : Supervisor σ β) (list : List Act) : Supervisor σ β :=
  list.foldl act supervisor

/-- The supervisor is started only when all tasks but the keeper that is remembered are done. -/
def isPatient : List Act → Supervisor σ β → Bool
  | [], _ => true
  | .start :: rest, supervisor => supervisor.isSettled && isPatient rest supervisor.start
  | act :: rest, supervisor => isPatient rest (supervisor.act act)

end Acts

/-! ## What the acts change -/

variable {supervisor : Supervisor σ β} {place other : Nat} {task : Task β}

theorem feeds_act [RankedStore σ β] (act : Act) :
    (supervisor.act act).feeds = supervisor.feeds := by
  cases act with
  | start =>
      rw [act, start]
      split <;> rfl
  | detach =>
      rw [act, detach]
      split <;> rfl
  | goes pace =>
      cases pace with
      | step place =>
          rw [act, Supervisor.pace, stepTask]
          split <;> rfl
      | clock time => rfl

theorem task?_cancel_self (found : supervisor.task? place = some task) :
    (supervisor.cancel place).task? place =
      some { task with
        cancelled := task.result?.isNone
        wake := ⟨supervisor.desk.now, supervisor.desk.order⟩ } := by
  have there : supervisor.tasks[place]? = some task := found
  simp [task?, cancel, there]

theorem task?_cancel_of_ne (distinct : other ≠ place) :
    (supervisor.cancel place).task? other = supervisor.task? other := by
  simp [task?, cancel, distinct.symm]

/-- Starting a supervisor that does not run leaves its tasks as they are. -/
theorem task?_start_of_ne (stopped : ¬ supervisor.running = true)
    (distinct : other ≠ supervisor.tasks.length) :
    supervisor.start.task? other = supervisor.task? other := by
  rw [start, if_neg stopped]
  change (supervisor.tasks ++ [_])[other]? = supervisor.tasks[other]?
  rcases Nat.lt_or_gt_of_ne distinct with inside | outside
  · exact List.getElem?_append_left inside
  · rw [List.getElem?_eq_none (Nat.le_of_lt outside), List.getElem?_eq_none]
    rw [List.length_append, List.length_singleton]
    exact outside

/-- Starting a supervisor that does not run adds a keeper that will ping the store. -/
theorem exists_task?_start (stopped : ¬ supervisor.running = true) :
    ∃ task : Task β, supervisor.start.task? supervisor.tasks.length = some task ∧
      task.Keeps ∧ task.isBuilding = false := by
  rw [start, if_neg stopped]
  exact ⟨_, List.getElem?_concat_length, ⟨rfl, rfl, rfl, nofun⟩, rfl⟩

theorem current_start (stopped : ¬ supervisor.running = true) :
    supervisor.start.current = some supervisor.tasks.length := by
  rw [start, if_neg stopped]

theorem status_start : supervisor.start.desk.status = supervisor.desk.status := by
  rw [start]
  split <;> rfl

end Supervisor

/-! ## Who is told to stop -/

/-- The keeper that is remembered goes on, and all other tasks are on their way out. -/
structure Guarded (supervisor : Supervisor σ β) : Prop where
  current : ∀ {place}, supervisor.current = some place →
    ∃ task, supervisor.task? place = some task ∧ task.Keeps
  others : ∀ {place task}, supervisor.task? place = some task →
    supervisor.current ≠ some place → task.Leaves

namespace Guarded

variable {supervisor : Supervisor σ β} {place : Nat} {task : Task β}

/-- The task that is remembered goes on. -/
theorem keeps (guarded : Guarded supervisor) (found : supervisor.task? place = some task)
    (current : supervisor.current = some place) : task.Keeps := by
  obtain ⟨keeper, there, keeps⟩ := guarded.current current
  obtain rfl : task = keeper := Option.some.inj (found.symm.trans there)
  exact keeps

/-- The keeper that is remembered runs. -/
theorem running_iff (guarded : Guarded supervisor) :
    supervisor.running = true ↔ supervisor.current ≠ none := by
  cases current : supervisor.current with
  | none => simp [Supervisor.running, current]
  | some place =>
      obtain ⟨task, found, keeps⟩ := guarded.current current
      simp [Supervisor.running, current, found, keeps.going]

theorem start (guarded : Guarded supervisor) : Guarded supervisor.start := by
  by_cases running : supervisor.running = true
  · rw [Supervisor.start, if_pos running]
    exact guarded
  · have forgotten : supervisor.current = none := by
      simpa using mt guarded.running_iff.mpr running
    obtain ⟨keeper, found, keeps, _⟩ := Supervisor.exists_task?_start running
    constructor
    · intro place current
      rw [Supervisor.current_start running] at current
      cases current
      exact ⟨keeper, found, keeps⟩
    · intro place task found other
      rw [Supervisor.current_start running] at other
      have distinct : place ≠ supervisor.tasks.length := fun same => other (same ▸ rfl)
      rw [Supervisor.task?_start_of_ne running distinct] at found
      exact guarded.others found (by simp [forgotten])

theorem detach (guarded : Guarded supervisor) : Guarded supervisor.detach := by
  cases current : supervisor.current with
  | none =>
      simp only [Supervisor.detach, current]
      exact guarded
  | some keeper =>
      simp only [Supervisor.detach, current]
      refine ⟨nofun, @fun place task found _ => ?_⟩
      change (supervisor.cancel keeper).task? place = some task at found
      by_cases same : place = keeper
      · subst same
        obtain ⟨before, there, keeps⟩ := guarded.current current
        rw [Supervisor.task?_cancel_self there, keeps.going] at found
        cases found
        exact keeps.cancel _
      · rw [Supervisor.task?_cancel_of_ne same] at found
        refine guarded.others found ?_
        rw [current]
        exact fun equal => same (Option.some.inj equal).symm

section Steps

variable [RankedStore σ β]

theorem step (guarded : Guarded supervisor) (place : Nat) :
    Guarded (supervisor.stepTask place) := by
  cases found : supervisor.task? place with
  | none =>
      rw [Supervisor.stepTask_of_none found]
      exact guarded
  | some task =>
      rw [Supervisor.stepTask_of_some found]
      constructor
      · intro keeper current
        by_cases same : keeper = place
        · subst same
          exact ⟨_, Supervisor.task?_put_self found, (guarded.keeps found current).step _ _ _⟩
        · obtain ⟨before, there, keeps⟩ := guarded.current current
          exact ⟨before, (Supervisor.task?_put_of_ne same).trans there, keeps⟩
      · intro leaver after there forgotten
        by_cases same : leaver = place
        · subst same
          rw [Supervisor.task?_put_self found] at there
          cases there
          exact (guarded.others found forgotten).step _ _ _
        · rw [Supervisor.task?_put_of_ne same] at there
          exact guarded.others there forgotten

theorem pace (guarded : Guarded supervisor) (pace : Pace) : Guarded (supervisor.pace pace) := by
  cases pace with
  | step place => exact guarded.step place
  | clock time => exact ⟨guarded.current, guarded.others⟩

/-- **Whatever happens, all tasks but the keeper that is remembered are told to stop.** -/
theorem acts (guarded : Guarded supervisor) (list : List Act) :
    Guarded (supervisor.acts list) := by
  induction list generalizing supervisor with
  | nil => exact guarded
  | cons act rest inductionHypothesis =>
      cases act with
      | start => exact inductionHypothesis guarded.start
      | detach => exact inductionHypothesis guarded.detach
      | goes pace => exact inductionHypothesis (guarded.pace pace)

/-- A task that is not remembered neither writes to the store nor asks for a feed. -/
theorem store_stepTask (guarded : Guarded supervisor)
    (forgotten : supervisor.current ≠ some place) :
    (supervisor.stepTask place).desk.store = supervisor.desk.store ∧
      (supervisor.stepTask place).desk.calls = supervisor.desk.calls := by
  cases found : supervisor.task? place with
  | none =>
      rw [Supervisor.stepTask_of_none found]
      exact ⟨rfl, rfl⟩
  | some task =>
      rw [Supervisor.stepTask_of_some found, Supervisor.desk_put]
      rcases (guarded.others found forgotten).step_cases supervisor.plan supervisor.feeds
        supervisor.desk with ⟨_, heed⟩ | ⟨_, same⟩
      · exact ⟨heed.store_eq, heed.calls_eq⟩
      · rw [same]
        exact ⟨rfl, rfl⟩

end Steps

end Guarded

/-! ## Builds and the status -/

theorem Status.stateName_eq_building_iff {status : Status} :
    status.stateName = "building" ↔ status.building = true := by
  cases building : status.building <;> simp [Status.stateName, building]

section Status

variable [RankedStore σ β] {plan : Plan} {feeds : Nat → Except String Feed} {desk after : Desk σ}
  {task next : Task β}

/-- A keeper that gets its feeds has the status building exactly while it builds. -/
theorem Stride.building_eq (stride : Stride plan feeds desk task after next)
    (supplied : ∀ call, ∃ feed, feeds call = .ok feed)
    (status : desk.status.building = task.isBuilding) :
    after.status.building = next.isBuilding := by
  cases stride with
  | missing _ absent =>
      obtain ⟨feed, found⟩ := supplied desk.calls
      rw [found] at absent
      cases absent
  | refused | begins | ends => rfl
  | unanswered point | answered point | tick point | pauses point | goesOn point =>
      simpa [Task.isBuilding, point] using status

omit [RankedStore σ β] in
/-- A task that has been told to stop has the status building until its build is closed. -/
theorem Heed.building_eq (heed : Heed desk task after next)
    (status : desk.status.building = task.isBuilding) :
    after.status.building = next.isBuilding := by
  cases heed with
  | stops _ idle => exact status.trans idle
  | closes point => simpa [Task.isBuilding, point] using status
  | closed => rfl

end Status

/-- All tasks but the one at a place are done, and the status is building exactly when this one
builds. -/
structure Alone (supervisor : Supervisor σ β) (place : Nat) : Prop where
  others : ∀ {other task}, other ≠ place → supervisor.task? other = some task →
    task.result? ≠ none
  status : supervisor.desk.status.building = supervisor.builds place

namespace Alone

variable {supervisor : Supervisor σ β} {place other : Nat} {task : Task β}

/-- A task that goes on is the one that is not done. -/
theorem eq_of_going (alone : Alone supervisor place) (found : supervisor.task? other = some task)
    (going : task.result? = none) : other = place := by
  by_contra distinct
  exact alone.others distinct found going

theorem eq_of_builds (alone : Alone supervisor place) (builds : supervisor.builds other = true) :
    other = place := by
  obtain ⟨task, found, building⟩ := Supervisor.exists_of_builds builds
  exact alone.eq_of_going found (Task.result?_of_isBuilding building)

/-- The status is building exactly when the task that is not done builds. -/
theorem building_eq (alone : Alone supervisor place) (found : supervisor.task? place = some task) :
    supervisor.desk.status.building = task.isBuilding := by
  rw [alone.status, Supervisor.builds, found]
  rfl

/-- A supervisor all of whose tasks are done can be started. -/
theorem start (alone : Alone supervisor place) (guarded : Guarded supervisor)
    (settled : supervisor.isSettled = true) : ∃ keeper, Alone supervisor.start keeper := by
  by_cases running : supervisor.running = true
  · rw [Supervisor.start, if_pos running]
    exact ⟨place, alone⟩
  · have forgotten : supervisor.current = none := by
      simpa using mt guarded.running_iff.mpr running
    have done : ∀ {other task}, supervisor.task? other = some task → task.result? ≠ none := by
      intro other task found
      have inside := (List.getElem?_eq_some_iff.mp found).1
      have left := List.all_eq_true.mp settled other (List.mem_range.mpr inside)
      simpa [forgotten, Supervisor.result?, found, Option.isSome_iff_ne_none] using left
    obtain ⟨keeper, found, _, idle⟩ := Supervisor.exists_task?_start running
    refine ⟨supervisor.tasks.length, fun distinct there => ?_, ?_⟩
    · rw [Supervisor.task?_start_of_ne running distinct] at there
      exact done there
    · have quiet : supervisor.builds place = false := by
        rw [Bool.eq_false_iff]
        intro builds
        obtain ⟨task, found, building⟩ := Supervisor.exists_of_builds builds
        exact done found (Task.result?_of_isBuilding building)
      rw [Supervisor.status_start, alone.status, quiet, Supervisor.builds, found]
      exact idle.symm

/-- Telling the keeper to stop ends no task. -/
theorem detach (alone : Alone supervisor place) (guarded : Guarded supervisor) :
    Alone supervisor.detach place := by
  cases current : supervisor.current with
  | none =>
      simp only [Supervisor.detach, current]
      exact alone
  | some keeper =>
      obtain ⟨task, found, keeps⟩ := guarded.current current
      obtain rfl := alone.eq_of_going found keeps.going
      have told := Supervisor.task?_cancel_self found
      simp only [Supervisor.detach, current]
      constructor
      · intro other after distinct there
        change (supervisor.cancel keeper).task? other = some after at there
        rw [Supervisor.task?_cancel_of_ne distinct] at there
        exact alone.others distinct there
      · have before := alone.building_eq found
        change supervisor.desk.status.building = ((supervisor.cancel keeper).task? keeper).any _
        rw [before, told]
        rfl

section Steps

variable [RankedStore σ β]

/-- **No step of a task adds a second build or leaves a wrong status.** -/
theorem step (alone : Alone supervisor place) (guarded : Guarded supervisor)
    (supplied : ∀ call, ∃ feed, supervisor.feeds call = .ok feed) (other : Nat) :
    Alone (supervisor.stepTask other) place := by
  cases found : supervisor.task? other with
  | none =>
      rw [Supervisor.stepTask_of_none found]
      exact alone
  | some task =>
      by_cases same : other = place
      · subst same
        rw [Supervisor.stepTask_of_some found]
        constructor
        · intro another after distinct there
          rw [Supervisor.task?_put_of_ne distinct] at there
          exact alone.others distinct there
        · have before := alone.building_eq found
          rw [Supervisor.builds, Supervisor.task?_put_self found]
          by_cases current : supervisor.current = some other
          · exact ((guarded.keeps found current).stride _ _ _).building_eq supplied before
          · rcases (guarded.others found current).step_cases supervisor.plan supervisor.feeds
              supervisor.desk with ⟨_, heed⟩ | ⟨_, rests⟩
            · exact heed.building_eq before
            · rw [rests]
              exact before
      · -- the other tasks are done, and stay as they are
        have done := alone.others same found
        have leaves : task.Leaves := by
          apply guarded.others found
          intro current
          exact done (guarded.keeps found current).going
        rcases leaves.step_cases supervisor.plan supervisor.feeds supervisor.desk with
          ⟨going, _⟩ | ⟨_, rests⟩
        · exact (done going).elim
        · rw [Supervisor.stepTask_of_rests found rests]
          exact alone

theorem pace (alone : Alone supervisor place) (guarded : Guarded supervisor)
    (supplied : ∀ call, ∃ feed, supervisor.feeds call = .ok feed) (pace : Pace) :
    Alone (supervisor.pace pace) place := by
  cases pace with
  | step other => exact alone.step guarded supplied other
  | clock time => exact ⟨alone.others, alone.status⟩

/-- **Patience keeps all tasks but one done.** -/
theorem acts (alone : Alone supervisor place) (guarded : Guarded supervisor)
    (supplied : ∀ call, ∃ feed, supervisor.feeds call = .ok feed) {list : List Act}
    (patient : supervisor.isPatient list = true) :
    ∃ keeper, Alone (supervisor.acts list) keeper := by
  induction list generalizing supervisor place with
  | nil => exact ⟨place, alone⟩
  | cons act rest inductionHypothesis =>
      have kept : ∀ call, ∃ feed, (supervisor.act act).feeds call = .ok feed := by
        rwa [Supervisor.feeds_act]
      cases act with
      | start =>
          obtain ⟨settled, patient⟩ := Bool.and_eq_true_iff.mp patient
          obtain ⟨keeper, started⟩ := alone.start guarded settled
          exact inductionHypothesis started guarded.start kept patient
      | detach => exact inductionHypothesis (alone.detach guarded) guarded.detach kept patient
      | goes pace =>
          exact inductionHypothesis (alone.pace guarded supplied pace) (guarded.pace pace) kept
            patient

end Steps

end Alone

/-! ## Starting and stopping in any order -/

/-- **One build is in progress at a time.**  Whatever parties start and stop a supervisor, and
however the steps of its tasks come between, no task but the keeper that is remembered writes to the
store or asks for a feed.  If the supervisor is started only when the keepers before are done, then
no two builds are in progress, and the status is building exactly when one is. -/
theorem one_build_at_a_time [RankedStore σ β] (plan : Plan) {feeds : Nat → Except String Feed}
    (supplied : ∀ call, ∃ feed, feeds call = .ok feed) (store : σ) (now : Rat) (acts : List Act) :
    let initial : Supervisor σ β := { plan, feeds, desk := { store, now } }
    let final := initial.acts acts
    (∀ place, final.current ≠ some place →
      (final.stepTask place).desk.store = final.desk.store ∧
        (final.stepTask place).desk.calls = final.desk.calls) ∧
    (initial.isPatient acts = true →
      (∀ first second, final.builds first = true → final.builds second = true → first = second) ∧
        (final.desk.status.stateName = "building" ↔ ∃ place, final.builds place = true)) := by
  intro initial final
  have guarded : Guarded initial := ⟨nofun, nofun⟩
  refine ⟨fun place forgotten => (guarded.acts acts).store_stepTask forgotten, fun patient => ?_⟩
  have alone : Alone initial 0 := ⟨nofun, rfl⟩
  obtain ⟨keeper, alone⟩ := alone.acts guarded supplied patient
  constructor
  · intro first second builds also
    exact (alone.eq_of_builds builds).trans (alone.eq_of_builds also).symm
  · rw [Status.stateName_eq_building_iff, alone.status]
    constructor
    · exact fun builds => ⟨keeper, builds⟩
    · rintro ⟨place, builds⟩
      rwa [← alone.eq_of_builds builds]

/-- A supervisor all of whose feeds are slow. -/
def slowSupervisor : Supervisor MemoryStore MemoryBatch :=
  { plan := eagerPlan, feeds := fun _ => .ok slowFeed, desk := { store := .empty, now := 0 } }

/-- A supervisor that is started again when its first keeper has closed the feed of its build. -/
theorem one_build_after_restart :
    let acts : List Act :=
      [.start, .goes (.step 0), .goes (.step 0), .detach, .goes (.step 0), .goes (.step 0),
        .start, .goes (.step 1), .goes (.step 1)]
    let final := slowSupervisor.acts acts
    (∀ call, ∃ feed, slowSupervisor.feeds call = .ok feed) ∧
      slowSupervisor.isPatient acts = true ∧ final.builds 0 = false ∧ final.builds 1 = true ∧
      final.desk.status.stateName = "building" := by
  intro acts final
  have supplied : ∀ call, ∃ feed, slowSupervisor.feeds call = .ok feed := fun _ => ⟨slowFeed, rfl⟩
  have patient : slowSupervisor.isPatient acts = true := by decide +kernel
  have builds : final.builds 1 = true := by decide +kernel
  obtain ⟨alone, state⟩ :
      (∀ first second, final.builds first = true → final.builds second = true → first = second) ∧
        (final.desk.status.stateName = "building" ↔ ∃ place, final.builds place = true) :=
    (one_build_at_a_time eagerPlan supplied MemoryStore.empty 0 acts).2 patient
  have quiet : final.builds 0 = false := by
    rw [Bool.eq_false_iff]
    intro also
    exact absurd (alone 0 1 also builds) (by decide)
  exact ⟨supplied, patient, quiet, builds, state.mpr ⟨1, builds⟩⟩

/-- **A supervisor that is started while its first keeper still closes a feed has two builds in
progress**, and when the first one is closed the status is idle although the second one goes on.  A
single run that ends while the keeper builds leaves the same wrong status. -/
theorem two_builds_at_a_time :
    let both := slowSupervisor.acts
      [.start, .goes (.step 0), .goes (.step 0), .detach,
        .start, .goes (.step 0), .goes (.step 1), .goes (.step 1)]
    let after := both.stepTask 0
    let quick : Feed := { signals := [.pause 2] }
    let slow : Feed := { signals := [.pause 10] }
    let keeping : Supervisor MemoryStore MemoryBatch :=
      { slowSupervisor with feeds := fun call => .ok (if call = 0 then slow else quick) }
    let run := (keeping.start.advance 9 1).runOnce 9
    both.builds 0 = true ∧ both.builds 1 = true ∧
      after.builds 1 = true ∧ after.desk.status.stateName = "idle" ∧
      run.2 = some (.built {}) ∧ run.1.builds 0 = true ∧
      run.1.desk.status.stateName = "idle" := by
  decide +kernel

end Typeahead.Schedule
