import Typeahead.Proofs.Index.Effects
import Typeahead.Proofs.Schedule.Stepping

/-!
# Stopping at any moment

A supervisor is started once and goes on for a while, and then it is stopped.  It can be
stopped at any moment: before the first step of its keeper, between two pings, while the
keeper sleeps between two builds, or between any two steps of a build.

The keeper then closes the feed of its build, if it has one in progress, and is done
(`Keeping.halted_stop`).  It neither pings the store nor asks for a feed nor writes again,
neither until it is done nor afterwards; so the store holds exactly the batches that had
landed on it before (`base_paces`).  The status only changes where a build was in progress:
it is recorded as cancelled (`stop_is_clean`).
-/

namespace Typeahead.Schedule

open Typeahead.Catalog Typeahead.Index Typeahead.Store

set_option autoImplicit false

variable {σ β : Type} [RankedStore σ β]

/-! ## Batches that land -/

/-- The batch that lands on the store with the next step of a task, if one does. -/
def Task.landing [MemoryBacked σ] (store : σ) (task : Task β) : List (List Addition) :=
  match task.cancelled, task.point with
  | false, .building build _ =>
      if build.lands store then [MemoryBacked.queue σ build.writer.batch] else []
  | _, _ => []

namespace Supervisor

/-- The batches that land on the store while a supervisor goes on. -/
def landed [MemoryBacked σ] : List Pace → Supervisor σ β → List (List Addition)
  | [], _ => []
  | .step place :: rest, supervisor =>
      ((supervisor.task? place).elim [] fun task => task.landing supervisor.desk.store) ++
        landed rest (supervisor.stepTask place)
  | .clock time :: rest, supervisor => landed rest (supervisor.moveClock time)

end Supervisor

variable {plan : Plan} {feeds : Nat → Except String Feed} {task next : Task β}

/-- A ping adds nothing to the sets of a store. -/
theorem base_ping (store : Faulty MemoryStore) :
    (RankedStore.ping store).2.base = store.base := by
  change (Faulty.ping store).2.base = store.base
  rw [Faulty.ping]
  split <;> rfl

theorem Task.landing_of_not_building [MemoryBacked σ] (store : σ) (idle : task.isBuilding = false) :
    task.landing store = [] := by
  rw [Task.landing]
  split
  next point => simp [Task.isBuilding, point] at idle
  next => rfl

/-- **A step of a keeper puts into the store what lands with it.** -/
theorem Task.Keeps.base_step {task : Task MemoryBatch} (keeps : task.Keeps) (plan : Plan)
    (feeds : Nat → Except String Feed) (desk : Desk (Faulty MemoryStore)) :
    (task.step plan feeds desk).1.store.base =
      (task.landing desk.store).foldl MemoryStore.insertAll desk.store.base := by
  have built : ∀ {build ticker}, task.point = .building build ticker →
      (build.step desk.store).1.base =
        (task.landing desk.store).foldl MemoryStore.insertAll desk.store.base := by
    intro build ticker point
    simp only [Task.landing, keeps.untold, point]
    refine (build.content_step desk.store).trans ?_
    split <;> rfl
  have idle : task.isBuilding = false →
      (task.landing desk.store).foldl MemoryStore.insertAll desk.store.base = desk.store.base := by
    intro idle
    rw [Task.landing_of_not_building desk.store idle]
    rfl
  have stride := keeps.stride plan feeds desk
  generalize (task.step plan feeds desk).1 = after, (task.step plan feeds desk).2 = next at stride
  cases stride with
  | unanswered point | answered point =>
      rw [idle (by simp [Task.isBuilding, point])]
      exact base_ping desk.store
  | pauses point | goesOn point | ends point => exact built point
  | _ point => exact (idle (by simp [Task.isBuilding, point])).symm

/-! ## Going on -/

/-- **A supervisor that goes on has in its store exactly the batches that have landed.** -/
theorem base_paces {supervisor : Supervisor (Faulty MemoryStore) MemoryBatch}
    {task : Task MemoryBatch} (keeping : Keeping supervisor task) (list : List Pace) :
    (∃ after, Keeping (supervisor.paces list) after) ∧
      (supervisor.paces list).desk.store.base =
        (supervisor.landed list).foldl MemoryStore.insertAll supervisor.desk.store.base := by
  induction list generalizing supervisor task with
  | nil => exact ⟨⟨task, keeping⟩, rfl⟩
  | cons pace rest inductionHypothesis =>
      cases pace with
      | clock time => exact inductionHypothesis (keeping.clock time)
      | step place =>
          by_cases first : place = 0
          · subst first
            have found := Supervisor.task?_of_single keeping.single
            obtain ⟨after, base⟩ := inductionHypothesis keeping.step
            refine ⟨after, base.trans ?_⟩
            rw [Supervisor.landed, found, Option.elim_some, List.foldl_append,
              Supervisor.stepTask_of_some found, Supervisor.desk_put, keeping.keeps.base_step]
          · have absent := Supervisor.task?_of_single_of_pos keeping.single first
            obtain ⟨after, base⟩ := inductionHypothesis keeping
            simp only [Supervisor.paces, List.foldl_cons, Supervisor.pace, Supervisor.landed,
              absent, Supervisor.stepTask_of_none absent] at base ⊢
            exact ⟨after, base⟩

/-! ## Stopping -/

/-- What a keeper that has been told to stop leaves when it is done. -/
structure Halted (before after : Supervisor σ β) (building : Bool) : Prop where
  gone : ∃ task, after.tasks = [task] ∧ task.Leaves ∧ task.result? = some .stopped
  forgotten : after.current = none
  store : after.desk.store = before.desk.store
  calls : after.desk.calls = before.desk.calls
  idle : building = false → after.desk.status = before.desk.status
  cancelled : building = true →
    ∃ time, after.desk.status = before.desk.status.finished time (failure .cancelled)

section Leaves

variable {supervisor : Supervisor σ β}

omit [RankedStore σ β] in
/-- A task that is done halts at once. -/
theorem halted_of_done {result : Result} (single : supervisor.tasks = [task])
    (forgotten : supervisor.current = none) (leaves : task.Leaves)
    (done : task.result? = some result) :
    Halted supervisor supervisor task.isBuilding := by
  cases leaves with
  | told _ going _ => simp [going] at done
  | closing _ point _ _ => simp [Task.result?, point] at done
  | gone heard point =>
      have idle : task.isBuilding = false := by simp [Task.isBuilding, point]
      rw [idle]
      exact {
        gone := ⟨task, single, .gone heard point, by simp [Task.result?, point]⟩
        forgotten
        store := rfl
        calls := rfl
        idle := fun _ => rfl
        cancelled := fun builds => absurd builds Bool.false_ne_true }

omit [RankedStore σ β] in
/-- What halts behind a step on the way out also halts before it. -/
theorem Halted.of_heed {time : Rat} {desk : Desk σ} {final : Supervisor σ β}
    (heed : Heed (supervisor.moveClock time).desk task desk next)
    (halted : Halted ((supervisor.moveClock time).put 0 desk next) final next.isBuilding) :
    Halted supervisor final task.isBuilding where
  gone := halted.gone
  forgotten := halted.forgotten
  store := halted.store.trans heed.store_eq
  calls := halted.calls.trans heed.calls_eq
  idle quiet := by
    cases heed with
    | stops => exact halted.idle rfl
    | closes point => simp [Task.isBuilding, point] at quiet
    | closed point => simp [Task.isBuilding, point] at quiet
  cancelled builds := by
    cases heed with
    | stops _ idle => simp [idle] at builds
    | closes => exact halted.cancelled rfl
    | closed => exact ⟨_, halted.idle rfl⟩

/-- **A task that has been told to stop is done after some steps**, and all that it does is to
record that its build was cancelled, if it had one in progress. -/
theorem halted_runTask {steps : Nat} (single : supervisor.tasks = [task])
    (forgotten : supervisor.current = none) (leaves : task.Leaves)
    (enough : task.heedLeft ≤ steps) :
    Halted supervisor (supervisor.runTask 0 steps) task.isBuilding := by
  induction steps generalizing supervisor task with
  | zero =>
      cases left : task.result? with
      | some result => exact halted_of_done single forgotten leaves left
      | none =>
          have heed := leaves.heed supervisor.plan supervisor.feeds supervisor.desk left
          have closer := heed.heedLeft_lt
          omega
  | succ steps inductionHypothesis =>
      have found := Supervisor.task?_of_single single
      cases left : task.result? with
      | some result =>
          have rests : supervisor.runTask 0 (steps + 1) = supervisor := by
            simp [Supervisor.runTask, Supervisor.result?, found, left]
          rw [rests]
          exact halted_of_done single forgotten leaves left
      | none =>
          let moved := supervisor.moveClock task.wake.time
          have heed := leaves.heed moved.plan moved.feeds moved.desk left
          have closer := heed.heedLeft_lt
          have steps_eq : supervisor.runTask 0 (steps + 1) =
              (moved.stepTask 0).runTask 0 steps := by
            simp [Supervisor.runTask, Supervisor.result?, found, left,
              Supervisor.first?_of_single single left, moved]
          have there : moved.task? 0 = some task := found
          rw [steps_eq, Supervisor.stepTask_of_some there]
          exact .of_heed heed (inductionHypothesis (Supervisor.tasks_put_of_single single)
            forgotten heed.leaves (by omega))

/-- **A keeper is done after some steps when its supervisor is stopped.** -/
theorem Keeping.halted_stop (keeping : Keeping supervisor task) {steps : Nat}
    (enough : task.heedLeft + 1 ≤ steps) :
    Halted supervisor (supervisor.stop steps) task.isBuilding := by
  let wake : Wake := ⟨supervisor.desk.now, supervisor.desk.order⟩
  have detached : supervisor.detach = { supervisor.cancel 0 with current := none } := by
    simp only [Supervisor.detach, keeping.current]
  have single : supervisor.detach.tasks = [{ task with cancelled := true, wake }] := by
    rw [detached]
    simp [Supervisor.cancel, keeping.single, keeping.keeps.going, wake]
  have forgotten : supervisor.detach.current = none := by rw [detached]
  have bound : Task.heedLeft { task with cancelled := true, wake } = task.heedLeft + 1 := by
    simp [Task.heedLeft, keeping.keeps.untold]
  have halted := halted_runTask single forgotten (keeping.keeps.cancel wake)
    (Nat.le_trans (Nat.le_of_eq bound) enough)
  simp only [Supervisor.stop, keeping.current]
  rw [detached] at halted ⊢
  exact {
    gone := halted.gone
    forgotten := halted.forgotten
    store := halted.store
    calls := halted.calls
    idle := halted.idle
    cancelled := halted.cancelled }

/-- **A task that is done stays as it is**, and so does all that it has left. -/
theorem desk_paces_of_done (single : supervisor.tasks = [task]) (leaves : task.Leaves)
    (done : task.result? = some .stopped) (list : List Pace) :
    (supervisor.paces list).tasks = [task] ∧
      (supervisor.paces list).desk.store = supervisor.desk.store ∧
      (supervisor.paces list).desk.calls = supervisor.desk.calls ∧
      (supervisor.paces list).desk.status = supervisor.desk.status := by
  induction list generalizing supervisor with
  | nil => exact ⟨single, rfl, rfl, rfl⟩
  | cons pace rest inductionHypothesis =>
      cases pace with
      | clock time =>
          have moved : (supervisor.moveClock time).tasks = [task] := single
          exact inductionHypothesis moved
      | step place =>
          have stays : supervisor.stepTask place = supervisor := by
            by_cases first : place = 0
            · subst first
              rcases leaves.step_cases supervisor.plan supervisor.feeds supervisor.desk with
                ⟨going, _⟩ | ⟨_, rests⟩
              · simp [done] at going
              · exact Supervisor.stepTask_of_rests (Supervisor.task?_of_single single) rests
            · exact Supervisor.stepTask_of_none (Supervisor.task?_of_single_of_pos single first)
          simp only [Supervisor.paces, List.foldl_cons, Supervisor.pace, stays]
          exact inductionHypothesis single

end Leaves

/-- **Stopping is clean at any moment.**  A supervisor is started on a store in memory that may
leave pings without an answer and refuse batches, and goes on in any way up to a moment at which it
is stopped.  Then it comes to a stop: it does not run, its keeper is done, and the store holds
exactly the batches that had landed on it before that moment.  The last addition in them for a
member decides about its score, every other score is what it was at first, and a key has come in
exactly if one of them has it.  Between that moment and its stop, and
however time goes on behind it, it neither pings nor writes to the store nor asks for a feed.  A
build that was in progress at that moment is recorded as cancelled; if there was none, the status
stays as it was. -/
theorem stop_is_clean (plan : Plan) (feeds : Nat → Except String Feed)
    (desk : Desk (Faulty MemoryStore)) (list : List Pace) :
    let started : Supervisor (Faulty MemoryStore) MemoryBatch :=
      Supervisor.start { plan, feeds, desk }
    let moment := started.paces list
    ∃ enough, ∀ steps, enough ≤ steps →
      let stopped := moment.stop steps
      stopped.running = false ∧ stopped.result? 0 = some .stopped ∧
      stopped.desk.store.base =
        (started.landed list).foldl MemoryStore.insertAll desk.store.base ∧
      (∀ key member, stopped.desk.store.base.score? key member =
        (MemoryStore.lastScore? (started.landed list).flatten key member).or
          (desk.store.base.score? key member)) ∧
      (∀ key : String, stopped.desk.store.base.sets[key]? = none ↔
        desk.store.base.sets[key]? = none ∧
          ∀ batch ∈ started.landed list, ∀ addition ∈ batch, addition.key ≠ key) ∧
      (∀ more : List Pace,
        (stopped.paces more).desk.store = moment.desk.store ∧
        (stopped.paces more).desk.calls = moment.desk.calls ∧
        (stopped.paces more).desk.status = stopped.desk.status) ∧
      (moment.builds 0 = true →
        stopped.desk.status.stateName = "idle" ∧
        stopped.desk.status.last = some (.failed "CancelledError" none) ∧
        stopped.desk.status.attempted = moment.desk.status.attempted) ∧
      (moment.builds 0 = false → stopped.desk.status = moment.desk.status) := by
  intro started moment
  obtain ⟨first, keeping, _⟩ := exists_keeping_start plan feeds desk
  obtain ⟨⟨keeper, keeping⟩, base⟩ := base_paces keeping list
  have builds : moment.builds 0 = keeper.isBuilding := keeping.builds_eq
  refine ⟨keeper.heedLeft + 1, fun steps enough => ?_⟩
  intro stopped
  have halted : Halted moment stopped keeper.isBuilding := keeping.halted_stop enough
  obtain ⟨gone, single, leaves, done⟩ := halted.gone
  have content : stopped.desk.store.base =
      (started.landed list).foldl MemoryStore.insertAll desk.store.base := by
    rw [halted.store]
    exact base
  have additions := content.trans (MemoryStore.insertAll_flatten _ _).symm
  refine ⟨?_, ?_, content, fun key member => ?_, fun key => ?_, ?_, ?_, ?_⟩
  · simp [Supervisor.running, halted.forgotten]
  · simp [Supervisor.result?, Supervisor.task?_of_single single, done]
  · rw [additions]
    exact MemoryStore.score?_insertAll _ _ key member
  · rw [additions, MemoryStore.sets_insertAll_eq_none_iff, List.forall_mem_flatten]
  · intro more
    obtain ⟨_, store, calls, status⟩ := desk_paces_of_done single leaves done more
    exact ⟨store.trans halted.store, calls.trans halted.calls, status⟩
  · intro building
    obtain ⟨time, recorded⟩ := halted.cancelled (builds.symm.trans building)
    rw [recorded]
    exact ⟨rfl, rfl, rfl⟩
  · exact fun quiet => halted.idle (builds.symm.trans quiet)

end Typeahead.Schedule
