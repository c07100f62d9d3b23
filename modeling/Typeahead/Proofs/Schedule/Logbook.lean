import Mathlib.Data.Prod.Lex
import Typeahead.Proofs.Index.Effects
import Typeahead.Proofs.Schedule.Stepping
import Typeahead.Proofs.Schedule.Timetable

/-!
# When a keeper pings and builds

A supervisor is started on a store that leaves some pings without an answer, and takes
one turn after the other: the task that is due first takes its step, at the time at
which it is due.  Running it up to a time is nothing else (`exists_turns_runUntil`).  Its
logbook notes the times of all pings, and those at which builds begin and end.

The keeper pings at fixed distances until the store answers and then begins its first
build, and from then on it keeps the timetable (`launch_keeps_timetable`).  What comes
of a build does not matter: only its duration has an effect on the builds behind it.
-/

namespace Typeahead.Schedule

open Typeahead.Catalog Typeahead.Index Typeahead.Store

set_option autoImplicit false

/-! ## Turns -/

namespace Supervisor

variable {σ β : Type} [RankedStore σ β]

/-- The task that is due first takes its step, at the time at which it is due. -/
def turn (supervisor : Supervisor σ β) : Supervisor σ β :=
  match supervisor.first? with
  | some (place, wake) => (supervisor.moveClock wake.time).stepTask place
  | none => supervisor

/-- Running what is due up to a time is to take some turns. -/
theorem exists_turns_runUntil (time : Rat) (steps : Nat) (supervisor : Supervisor σ β) :
    ∃ turns, supervisor.runUntil time steps = (turn^[turns] supervisor).moveClock time := by
  induction steps generalizing supervisor with
  | zero => exact ⟨0, rfl⟩
  | succ steps inductionHypothesis =>
      cases due : supervisor.first? with
      | none => exact ⟨0, by simp only [runUntil, due]; rfl⟩
      | some first =>
          obtain ⟨place, wake⟩ := first
          by_cases come : wake.time ≤ time
          · obtain ⟨turns, run⟩ := inductionHypothesis supervisor.turn
            refine ⟨turns + 1, ?_⟩
            rw [Function.iterate_succ_apply, ← run]
            simp only [runUntil, turn, due, come, if_true]
          · exact ⟨0, by simp only [runUntil, due, come, if_false]; rfl⟩

end Supervisor

/-! ## The logbook -/

/-- The times of the pings, and those at which builds have begun and ended. -/
structure Logbook where
  pings : List Rat := []
  begun : List Rat := []
  ended : List Rat := []
  deriving DecidableEq, Repr, Inhabited

namespace Logbook

/-- Enters what happens at a time. -/
def enter (book : Logbook) (now : Rat) (pings begins ends : Bool) : Logbook :=
  { pings := book.pings ++ if pings then [now] else []
    begun := book.begun ++ if begins then [now] else []
    ended := book.ended ++ if ends then [now] else [] }

/-- Notes a turn: the store has been pinged, a feed has been asked for, or a build is no longer in
progress. -/
def note (book : Logbook) (before after : Supervisor (Faulty MemoryStore) MemoryBatch) : Logbook :=
  let pings := before.desk.store.pinged != after.desk.store.pinged
  let begins := before.desk.calls != after.desk.calls
  book.enter after.desk.now pings begins ((before.builds 0 || begins) && !after.builds 0)

end Logbook

/-- A supervisor behind so many turns, with its logbook. -/
def Supervisor.logged (supervisor : Supervisor (Faulty MemoryStore) MemoryBatch) :
    Nat → Supervisor (Faulty MemoryStore) MemoryBatch × Logbook
  | 0 => (supervisor, {})
  | turns + 1 =>
      let earlier := supervisor.logged turns
      (earlier.1.turn, earlier.2.note earlier.1 earlier.1.turn)

/-- A supervisor that has just been started on a store in memory with a fault plan. -/
def launch (plan : Plan) (feeds : Nat → Except String Feed) (base : MemoryStore)
    (faults : FaultPlan) (now : Rat) : Supervisor (Faulty MemoryStore) MemoryBatch :=
  Supervisor.start { plan, feeds, desk := { store := { base, plan := faults }, now } }

/-! ## Where a keeper stands -/

theorem pinged_ping (store : Faulty MemoryStore) :
    (RankedStore.ping store).2.pinged = store.pinged + 1 := by
  change (Faulty.ping store).2.pinged = _
  rw [Faulty.ping]
  split <;> rfl

theorem plan_ping (store : Faulty MemoryStore) : (RankedStore.ping store).2.plan = store.plan := by
  change (Faulty.ping store).2.plan = _
  rw [Faulty.ping]
  split <;> rfl

/-- A ping is answered unless the plan leaves it without an answer. -/
theorem ping_eq_error_iff (store : Faulty MemoryStore) :
    (∃ fault, (RankedStore.ping store).1 = .error fault) ↔ store.pinged < store.plan.pings := by
  change (∃ fault, (Faulty.ping store).1 = .error fault) ↔ _
  rw [Faulty.ping]
  split
  next silent => exact ⟨fun _ => silent, fun _ => ⟨_, rfl⟩⟩
  next answered =>
    refine ⟨?_, fun few => (answered few).elim⟩
    rintro ⟨_, ⟨⟩⟩

/-- Where a keeper stands behind so many turns: the next step is due at a time that the logbook
tells. -/
inductive Phase (plan : Plan) (failures : Nat) (start : Rat) (turns : Nat)
    (desk : Desk (Faulty MemoryStore)) (task : Task MemoryBatch) (book : Logbook) : Prop where
  /-- it pings the store -/
  | polling (point : task.point = .polling) (few : turns ≤ failures)
      (pinged : desk.store.pinged = turns) (faults : desk.store.plan.pings = failures)
      (due : later desk.now task.wake.time = start + turns * plan.poll)
      (nothing : book.begun = [] ∧ book.ended = [])
  /-- it is about to begin a build -/
  | opening {ticker : Option Ticker} {due : Rat} (point : task.point = .opening (ticker.map .fire))
      (answered : failures < turns)
      (kept : Kept plan (start + failures * plan.poll) book.begun book.ended ticker due)
      (now : later desk.now task.wake.time = due)
  /-- it waits for a tick -/
  | ticking {ticker : Ticker} {due : Rat} (point : task.point = .ticking ticker)
      (answered : failures < turns)
      (kept : Kept plan (start + failures * plan.poll) book.begun book.ended (some ticker) due)
      (now : later desk.now task.wake.time = due)
  /-- it builds -/
  | building {build : Build MemoryBatch} {ticker : Option Ticker} {due : Rat} {earlier : List Rat}
      (point : task.point = .building build (ticker.map .fire)) (answered : failures < turns)
      (kept : Kept plan (start + failures * plan.poll) earlier book.ended ticker due)
      (begun : book.begun = earlier ++ [due]) (since : due ≤ desk.now)

/-- What a keeper and its logbook keep from one turn to the next. -/
structure Follows (plan : Plan) (failures : Nat) (start : Rat) (turns : Nat)
    (desk : Desk (Faulty MemoryStore)) (task : Task MemoryBatch) (book : Logbook) : Prop where
  pings : book.pings = (List.range (min turns (failures + 1))).map fun number : Nat =>
    start + number * plan.poll
  attempted : desk.status.attempted = book.begun.length
  phase : Phase plan failures start turns desk task book

/-- How far a keeper is from the end of its next build. -/
def Task.rank (failures turns : Nat) (task : Task MemoryBatch) : Nat ×ₗ Nat :=
  match task.point with
  | .polling => toLex (3, failures - turns)
  | .ticking _ => toLex (2, 0)
  | .opening _ => toLex (1, 0)
  | .building build _ => toLex (0, build.stepsLeft)
  | .done _ => toLex (0, 0)

section Turns

variable {plan : Plan} {feeds : Nat → Except String Feed} {failures turns : Nat} {start : Rat}
  {desk after : Desk (Faulty MemoryStore)} {task next : Task MemoryBatch} {book : Logbook}

theorem now_le_later (now time : Rat) : now ≤ later now time := by
  rw [later]
  split
  next ahead => exact ahead
  next => exact le_refl _

theorem le_later (now time : Rat) : time ≤ later now time := by
  rw [later]
  split
  next => exact le_refl _
  next passed => exact (not_le.mp passed).le

theorem later_later (now time : Rat) : later (later now time) time = later now time := by
  rcases le_iff_eq_or_lt.mp (le_later now time) with same | passed
  · rw [← same, later, if_pos (le_refl _)]
  · rw [later, if_neg (not_le.mpr passed)]

/-- What is noted of a step of a task. -/
def Logbook.seen (book : Logbook) (desk after : Desk (Faulty MemoryStore))
    (task next : Task MemoryBatch) : Logbook :=
  let pings := desk.store.pinged != after.store.pinged
  let begins := desk.calls != after.calls
  book.enter after.now pings begins ((task.isBuilding || begins) && !next.isBuilding)

/-- Pings are noted until the store has answered. -/
theorem range_succ_of_le (few : turns ≤ failures) (time : Nat → Rat) :
    (List.range (min (turns + 1) (failures + 1))).map time =
      (List.range (min turns (failures + 1))).map time ++ [time turns] := by
  rw [Nat.min_eq_left (by omega), Nat.min_eq_left (by omega), List.range_succ, List.map_append]
  rfl

theorem range_succ_of_lt (many : failures < turns) (time : Nat → Rat) :
    (List.range (min (turns + 1) (failures + 1))).map time =
      (List.range (min turns (failures + 1))).map time := by
  rw [Nat.min_eq_right (by omega), Nat.min_eq_right (by omega)]

/-- What a step of a keeper leads to: the next phase, and closer to the end of the next build if it
does not end one. -/
structure Turned (plan : Plan) (failures : Nat) (start : Rat) (turns : Nat)
    (after : Desk (Faulty MemoryStore)) (task next : Task MemoryBatch) (book noted : Logbook) :
    Prop where
  follows : Follows plan failures start (turns + 1) after next noted
  closer : noted.ended.length = book.ended.length + 1 ∨
    noted.ended = book.ended ∧ next.rank failures (turns + 1) < task.rank failures turns

section Seen

variable (book)

/-- Nothing is noted of a step that begins and ends nothing. -/
theorem Logbook.seen_quiet (pinged : after.store.pinged = desk.store.pinged)
    (called : after.calls = desk.calls) (same : next.isBuilding = task.isBuilding) :
    book.seen desk after task next = book := by
  simp [Logbook.seen, Logbook.enter, pinged, called, same]

theorem Logbook.seen_ping (pinged : after.store.pinged = desk.store.pinged + 1)
    (called : after.calls = desk.calls) (idle : task.isBuilding = false) :
    book.seen desk after task next = { book with pings := book.pings ++ [after.now] } := by
  simp [Logbook.seen, Logbook.enter, pinged, called, idle]

theorem Logbook.seen_begin (pinged : after.store.pinged = desk.store.pinged)
    (called : after.calls = desk.calls + 1) (builds : next.isBuilding = true) :
    book.seen desk after task next = { book with begun := book.begun ++ [after.now] } := by
  simp [Logbook.seen, Logbook.enter, pinged, called, builds]

theorem Logbook.seen_end (pinged : after.store.pinged = desk.store.pinged)
    (called : after.calls = desk.calls) (builds : task.isBuilding = true)
    (quiet : next.isBuilding = false) :
    book.seen desk after task next = { book with ended := book.ended ++ [after.now] } := by
  simp [Logbook.seen, Logbook.enter, pinged, called, builds, quiet]

/-- A build that is over at once begins and ends at one time. -/
theorem Logbook.seen_both (pinged : after.store.pinged = desk.store.pinged)
    (called : after.calls = desk.calls + 1) (quiet : next.isBuilding = false) :
    book.seen desk after task next =
      { book with begun := book.begun ++ [after.now], ended := book.ended ++ [after.now] } := by
  simp [Logbook.seen, Logbook.enter, pinged, called, quiet]

end Seen

theorem Turned.of_seen {noted : Logbook} (seen : book.seen desk after task next = noted)
    (turned : Turned plan failures start turns after task next book noted) :
    Turned plan failures start turns after task next book (book.seen desk after task next) :=
  seen ▸ turned

/-- A keeper that polls goes on to poll, or is about to build. -/
theorem Follows.turned_polling (follows : Follows plan failures start turns desk task book)
    (point : task.point = .polling) (patient : 0 ≤ plan.poll)
    (stride : Stride plan feeds (desk.moved task.wake.time) task after next) :
    Turned plan failures start turns after task next book
      (book.seen (desk.moved task.wake.time) after task next) := by
  obtain ⟨pings, attempted, phase⟩ := follows
  have idle : task.isBuilding = false := by simp [Task.isBuilding, point]
  cases phase with
  | polling _ few pinged faults due nothing =>
      have noted : book.pings ++ [later desk.now task.wake.time] =
          (List.range (min (turns + 1) (failures + 1))).map fun number : Nat =>
            start + number * plan.poll := by
        rw [range_succ_of_le few, pings, due]
      have count := pinged_ping desk.store
      have kept := plan_ping desk.store
      cases stride with
      | @unanswered fault _ _ silent =>
          have few : turns < failures := by
            rw [← pinged, ← faults]
            exact (ping_eq_error_iff desk.store).mp ⟨fault, silent⟩
          refine .of_seen (book.seen_ping count rfl idle) ?_
          refine ⟨⟨noted, attempted, .polling rfl few (count.trans (by rw [pinged]))
            ((congrArg FaultPlan.pings kept).trans faults) ?_ nothing⟩, .inr ⟨rfl, ?_⟩⟩
          · have later_le : later desk.now task.wake.time ≤
                later desk.now task.wake.time + plan.poll := by linarith
            refine (if_pos later_le).trans ?_
            change later desk.now task.wake.time + plan.poll = _
            rw [due]
            push_cast
            ring
          · simp only [Task.rank, point]
            exact Prod.Lex.toLex_lt_toLex.mpr (.inr ⟨rfl, by omega⟩)
      | answered _ ready =>
          have all : turns = failures := by
            refine Nat.le_antisymm few (Nat.le_of_not_lt fun fewer => ?_)
            rw [← pinged, ← faults] at fewer
            obtain ⟨fault, silent⟩ := (ping_eq_error_iff desk.store).mpr fewer
            cases ready.symm.trans silent
          have kept : Kept plan (start + failures * plan.poll) book.begun book.ended none
              (start + failures * plan.poll) := by
            rw [nothing.1, nothing.2]
            exact .none
          have opens : (Point.opening none : Point MemoryBatch) =
              .opening (none.map Ticker.fire) := rfl
          refine .of_seen (book.seen_ping count rfl idle) ?_
          refine ⟨⟨noted, attempted, .opening opens (by omega) kept ?_⟩, .inr ⟨rfl, ?_⟩⟩
          · refine (later_later desk.now task.wake.time).trans ?_
            rw [due, all]
          · simp only [Task.rank, point]
            exact Prod.Lex.toLex_lt_toLex.mpr (.inl (by simp))
      | _ there => simp [point] at there
  | _ there => simp [point] at there

/-- What follows when a keeper waits for its next tick because a build has ended. -/
theorem Phase.of_rests {ticker : Option Ticker} {due : Rat} {earlier ended : List Rat} {order : Nat}
    (answered : failures < turns)
    (kept : Kept plan (start + failures * plan.poll) earlier ended ticker due)
    (lasts : due ≤ after.now) (begun : book.begun = earlier ++ [due])
    (finished : book.ended = ended ++ [after.now]) :
    Phase plan failures start (turns + 1) after
      (task.rests plan after.now order (ticker.map .fire)) book := by
  have waits := kept.build lasts
  rw [← begun, ← finished] at waits
  exact .ticking rfl (Nat.lt_succ_of_lt answered) waits (if_pos (Ticker.now_le_fireTime _ _))

/-- A keeper that waits for a tick is about to build when it fires. -/
theorem Follows.turned_ticking (follows : Follows plan failures start turns desk task book)
    {ticker : Ticker} (point : task.point = .ticking ticker)
    (stride : Stride plan feeds (desk.moved task.wake.time) task after next) :
    Turned plan failures start turns after task next book
      (book.seen (desk.moved task.wake.time) after task next) := by
  obtain ⟨pings, attempted, phase⟩ := follows
  cases phase with
  | ticking there answered kept now =>
      obtain rfl := Point.ticking.inj (point.symm.trans there)
      cases stride with
      | tick again =>
          obtain rfl := Point.ticking.inj (point.symm.trans again)
          refine .of_seen (book.seen_quiet rfl rfl (by simp [Task.isBuilding, point])) ?_
          refine ⟨⟨pings.trans (range_succ_of_lt answered _).symm, attempted,
            .opening rfl (Nat.lt_succ_of_lt answered) kept ?_⟩, .inr ⟨rfl, ?_⟩⟩
          · exact (later_later desk.now task.wake.time).trans now
          · simp only [Task.rank, point]
            exact Prod.Lex.toLex_lt_toLex.mpr (.inl (by simp))
      | _ other => simp [point] at other
  | _ there => simp [point] at there

/-- A keeper that asks for a feed begins to build, or its build is over at once. -/
theorem Follows.turned_opening (follows : Follows plan failures start turns desk task book)
    {ticker : Option Ticker} (point : task.point = .opening ticker)
    (stride : Stride plan feeds (desk.moved task.wake.time) task after next) :
    Turned plan failures start turns after task next book
      (book.seen (desk.moved task.wake.time) after task next) := by
  obtain ⟨pings, attempted, phase⟩ := follows
  cases phase with
  | opening there answered kept now =>
      obtain rfl := Point.opening.inj (point.symm.trans there)
      have counted := congrArg (· + 1) attempted
      have same := pings.trans (range_succ_of_lt answered _).symm
      cases stride with
      | missing again | refused again =>
          obtain rfl := Point.opening.inj (point.symm.trans again)
          refine .of_seen (book.seen_both rfl rfl rfl) ?_
          refine ⟨⟨same, counted.trans (by simp), ?_⟩, .inl (by simp)⟩
          exact .of_rests answered kept now.ge (by rw [← now]; rfl) rfl
      | begins again =>
          obtain rfl := Point.opening.inj (point.symm.trans again)
          refine .of_seen (book.seen_begin rfl rfl rfl) ?_
          refine ⟨⟨same, counted.trans (by simp), ?_⟩, .inr ⟨rfl, ?_⟩⟩
          · exact .building rfl (Nat.lt_succ_of_lt answered) kept (by rw [← now]; rfl) now.ge
          · simp only [Task.rank, point]
            exact Prod.Lex.toLex_lt_toLex.mpr (.inl (by simp))
      | _ other => simp [point] at other
  | _ there => simp [point] at there

/-- A keeper that builds goes on, or its build ends. -/
theorem Follows.turned_building (follows : Follows plan failures start turns desk task book)
    (keeps : task.Keeps) {build : Build MemoryBatch} {ticker : Option Ticker}
    (point : task.point = .building build ticker)
    (stride : Stride plan feeds (desk.moved task.wake.time) task after next) :
    Turned plan failures start turns after task next book
      (book.seen (desk.moved task.wake.time) after task next) := by
  obtain ⟨pings, attempted, phase⟩ := follows
  have builds : task.isBuilding = true := by simp [Task.isBuilding, point]
  have unpinged := (build.plan_step desk.store).2
  have closer := (Build.move_step desk.store build).stepsLeft_lt (keeps.building point).1
  have passed := now_le_later desk.now task.wake.time
  cases phase with
  | building there answered kept begun since =>
      obtain ⟨rfl, rfl⟩ := Point.building.inj (point.symm.trans there)
      have same := pings.trans (range_succ_of_lt answered _).symm
      cases stride with
      | pauses again | goesOn again =>
          obtain ⟨rfl, rfl⟩ := Point.building.inj (point.symm.trans again)
          refine .of_seen (book.seen_quiet unpinged rfl (by rw [builds]; rfl)) ?_
          refine ⟨⟨same, attempted, .building rfl (Nat.lt_succ_of_lt answered) kept begun
            (since.trans passed)⟩, .inr ⟨rfl, ?_⟩⟩
          simp only [Task.rank, point]
          exact Prod.Lex.toLex_lt_toLex.mpr (.inr ⟨rfl, closer⟩)
      | ends again =>
          obtain ⟨rfl, rfl⟩ := Point.building.inj (point.symm.trans again)
          refine .of_seen (book.seen_end unpinged rfl builds rfl) ?_
          refine ⟨⟨same, attempted, ?_⟩, .inl (by simp)⟩
          exact .of_rests answered kept (since.trans passed) begun rfl
      | _ other => simp [point] at other
  | _ there => simp [point] at there

/-- **Each step of a keeper leads to the next phase.** -/
theorem Follows.turned (follows : Follows plan failures start turns desk task book)
    (keeps : task.Keeps) (patient : 0 ≤ plan.poll)
    (stride : Stride plan feeds (desk.moved task.wake.time) task after next) :
    Turned plan failures start turns after task next book
      (book.seen (desk.moved task.wake.time) after task next) := by
  cases point : task.point with
  | polling => exact follows.turned_polling point patient stride
  | opening ticker => exact follows.turned_opening point stride
  | ticking ticker => exact follows.turned_ticking point stride
  | building build ticker => exact follows.turned_building keeps point stride
  | done result =>
      have going := keeps.going
      simp [Task.result?, point] at going

end Turns

/-! ## Whole runs -/

section Runs

variable {supervisor : Supervisor (Faulty MemoryStore) MemoryBatch} {task : Task MemoryBatch}
  {failures turns : Nat} {start : Rat} {book : Logbook}

/-- A turn of a supervisor that has a keeper is a step of this keeper. -/
theorem Keeping.exists_turned (keeping : Keeping supervisor task) {plan : Plan}
    (same : supervisor.plan = plan)
    (follows : Follows plan failures start turns supervisor.desk task book)
    (patient : 0 ≤ plan.poll) :
    ∃ next, Keeping supervisor.turn next ∧ supervisor.turn.plan = plan ∧
      Turned plan failures start turns supervisor.turn.desk task next book
        (book.note supervisor supervisor.turn) := by
  subst same
  have moved := keeping.clock task.wake.time
  have stepped := Supervisor.stepTask_of_some (Supervisor.task?_of_single moved.single)
  have turned : supervisor.turn = (supervisor.moveClock task.wake.time).stepTask 0 := by
    rw [Supervisor.turn, Supervisor.first?_of_single keeping.single keeping.keeps.going]
  have kept := moved.step
  have stride := keeping.keeps.stride supervisor.plan supervisor.feeds
    (supervisor.desk.moved task.wake.time)
  refine ⟨_, turned ▸ kept, ?_, ?_⟩
  · rw [turned, stepped]
    rfl
  · have noted := follows.turned keeping.keeps patient stride
    rw [Logbook.note, keeping.builds_eq, turned, kept.builds_eq, stepped]
    exact noted

/-- **What each turn keeps holds behind any number of turns.** -/
theorem exists_follows_logged {plan : Plan} (patient : 0 ≤ plan.poll)
    (feeds : Nat → Except String Feed) (base : MemoryStore) (faults : FaultPlan) (now : Rat)
    (turns : Nat) :
    let run := (launch plan feeds base faults now).logged
    ∃ task, Keeping (run turns).1 task ∧ (run turns).1.plan = plan ∧
      Follows plan faults.pings now turns (run turns).1.desk task (run turns).2 := by
  intro run
  induction turns with
  | zero =>
      obtain ⟨task, keeping, point, wake⟩ :=
        exists_keeping_start (β := MemoryBatch) plan feeds
          { store := ({ base, plan := faults } : Faulty MemoryStore), now }
      refine ⟨task, keeping, rfl, ⟨rfl, rfl, .polling point (Nat.zero_le _) rfl rfl ?_ ⟨rfl, rfl⟩⟩⟩
      rw [wake]
      refine (if_pos (le_refl _)).trans ?_
      simp
  | succ turns inductionHypothesis =>
      obtain ⟨task, keeping, same, follows⟩ := inductionHypothesis
      obtain ⟨next, kept, also, turned⟩ := keeping.exists_turned same follows patient
      exact ⟨next, kept, also, turned.follows⟩

/-- **Every build comes to its end, and another one begins behind it.** -/
theorem exists_ended_logged {plan : Plan} (patient : 0 ≤ plan.poll)
    (feeds : Nat → Except String Feed) (base : MemoryStore) (faults : FaultPlan) (now : Rat)
    (turns : Nat) :
    let run := (launch plan feeds base faults now).logged
    ∃ later, (run later).2.ended.length = (run turns).2.ended.length + 1 := by
  intro run
  obtain ⟨task, keeping, same, follows⟩ :=
    exists_follows_logged patient feeds base faults now turns
  -- the keeper comes closer with each turn
  generalize rank_eq : task.rank faults.pings turns = rank
  induction rank using WellFoundedLT.induction generalizing turns task with
  | ind rank inductionHypothesis =>
      obtain ⟨next, kept, also, turned⟩ := keeping.exists_turned same follows patient
      rcases turned.closer with ended | ⟨unchanged, closer⟩
      · exact ⟨turns + 1, ended⟩
      · obtain ⟨later, ended⟩ := inductionHypothesis _ (rank_eq ▸ closer) (turns + 1) next kept also
          turned.follows rfl
        refine ⟨later, ended.trans ?_⟩
        exact congrArg (·.length + 1) unchanged

theorem Follows.inStep {plan : Plan} {desk : Desk (Faulty MemoryStore)}
    (follows : Follows plan failures start turns desk task book) :
    InStep plan (start + failures * plan.poll) book.begun book.ended := by
  cases follows.phase with
  | polling _ _ _ _ _ nothing =>
      rw [nothing.1, nothing.2]
      exact .inl ⟨_, _, .none⟩
  | opening _ _ kept _ | ticking _ _ kept _ => exact .inl ⟨_, _, kept⟩
  | building _ _ kept begun _ => exact .inr ⟨_, _, _, kept, begun⟩

/-- As many builds have ended as have begun, unless one is in progress. -/
theorem Follows.length_eq {plan : Plan} {desk : Desk (Faulty MemoryStore)}
    (follows : Follows plan failures start turns desk task book)
    (idle : task.isBuilding = false) : book.ended.length = book.begun.length := by
  cases follows.phase with
  | polling _ _ _ _ _ nothing => rw [nothing.1, nothing.2]
  | opening _ _ kept _ | ticking _ _ kept _ => exact kept.length_eq.symm
  | building point _ _ _ _ => simp [Task.isBuilding, point] at idle

/-- **A keeper keeps its timetable.**  The store leaves a number of pings without an answer.  There
is one ping more, the pings are as far apart as the plan says, and the first build begins with the
last of them.  Behind any number of turns the builds keep the timetable, and as many have been
attempted as have begun; when none is in progress, these are the ones that have ended.  Every build
ends, so that any number of them do.  Two keepers with one plan whose builds last equally long begin
them at the same times, whatever their feeds and their stores make of them. -/
theorem launch_keeps_timetable (plan : Plan) (patient : 0 ≤ plan.poll)
    (positive : 0 < plan.interval.value) (feeds : Nat → Except String Feed) (base : MemoryStore)
    (faults : FaultPlan) (now : Rat) :
    let run := (launch plan feeds base faults now).logged
    (∀ turns, let (supervisor, book) := run turns
      book.pings = ((List.range (min turns (faults.pings + 1))).map fun number : Nat =>
          now + number * plan.poll) ∧
        Timetable plan.interval.value (now + faults.pings * plan.poll) book.begun book.ended ∧
        supervisor.desk.status.attempted = book.begun.length ∧
        (supervisor.builds 0 = false → book.ended.length = book.begun.length)) ∧
    (∀ count, ∃ turns, (run turns).2.ended.length = count) ∧
    ∀ (otherFeeds : Nat → Except String Feed) (otherBase : MemoryStore) (otherFaults : FaultPlan),
      otherFaults.pings = faults.pings →
      let other := (launch plan otherFeeds otherBase otherFaults now).logged
      ∀ turns otherTurns,
        (∀ (n : Nat) (lasted otherLasted : Rat),
          (durations (run turns).2.begun (run turns).2.ended)[n]? = some lasted →
          (durations (other otherTurns).2.begun (other otherTurns).2.ended)[n]? = some otherLasted →
          lasted = otherLasted) →
        ∀ (n : Nat) (start otherStart : Rat), (run turns).2.begun[n]? = some start →
          (other otherTurns).2.begun[n]? = some otherStart → start = otherStart := by
  intro run
  refine ⟨fun turns => ?_, fun count => ?_, ?_⟩
  · obtain ⟨task, keeping, _, follows⟩ := exists_follows_logged patient feeds base faults now turns
    refine ⟨follows.pings, timetable_of_inStep positive follows.inStep, follows.attempted, ?_⟩
    intro quiet
    exact follows.length_eq (keeping.builds_eq.symm.trans quiet)
  · induction count with
    | zero => exact ⟨0, rfl⟩
    | succ count inductionHypothesis =>
        obtain ⟨turns, rfl⟩ := inductionHypothesis
        exact exists_ended_logged patient feeds base faults now turns
  · intro otherFeeds otherBase otherFaults sameFaults other turns otherTurns same n start otherStart
      begins otherBegins
    obtain ⟨_, _, _, follows⟩ := exists_follows_logged patient feeds base faults now turns
    obtain ⟨_, _, _, otherFollows⟩ :=
      exists_follows_logged patient otherFeeds otherBase otherFaults now otherTurns
    rw [sameFaults] at otherFollows
    exact follows.inStep.begun_eq otherFollows.inStep same begins otherBegins

end Runs

/-- A plan with a rebuild every second. -/
def everySecond : Plan := { interval := ⟨0x3FF0000000000000⟩, poll := 2, batchSize := 1 }

/-- The first build lasts a second, the second one two and a half; then there are no feeds left. -/
def overrun : Nat → Except String Feed
  | 0 => .ok { signals := [.pause 1] }
  | 1 => .ok { signals := [.pause (5 / 2)] }
  | _ => .error "There is nothing to build from."

/-- The second build takes up the slots five and six, so that the third one begins late. -/
theorem launch_keeps_timetable_of_overrun :
    let run := (launch everySecond overrun .empty { pings := 1 } 0).logged
    0 ≤ everySecond.poll ∧ 0 < everySecond.interval.value ∧
      (run 16).2.pings = [0, 2] ∧ (run 16).2.begun = [2, 4, 13 / 2, 7] ∧
      Timetable everySecond.interval.value 2 (run 16).2.begun (run 16).2.ended := by
  intro run
  have patient : 0 ≤ everySecond.poll := by decide
  have positive : 0 < everySecond.interval.value := by decide +kernel
  obtain ⟨each, _⟩ := launch_keeps_timetable everySecond patient positive overrun .empty
    { pings := 1 } 0
  obtain ⟨pings, timetable, _⟩ := each 16
  have first : (0 : Rat) + (1 : Nat) * everySecond.poll = 2 := by decide +kernel
  have begun : (run 16).2.begun = [2, 4, 13 / 2, 7] := by decide +kernel
  refine ⟨patient, positive, pings.trans (by decide +kernel), begun, ?_⟩
  rw [← first]
  exact timetable

end Typeahead.Schedule
