import Typeahead.Proofs.Index.Moves

/-!
# The states that a build passes through

A build that is run passes through a list of states (`states`), and the flushes
that the store carries out on the way are steps between two of them (`lands`).
What each step keeps holds in all states and at the end (`forall_states`,
`runFor_induction`), and what each step does not decrease grows along the list
(`pairwise_states`).
-/

namespace Typeahead.Index

open Typeahead.Catalog Typeahead.Store

set_option autoImplicit false

namespace Build

variable {σ β : Type} [RankedStore σ β]

/-- The states that a build passes through in so many steps, the first and the last included. -/
def states : Nat → σ → Build β → List (σ × Build β)
  | 0, store, build => [(store, build)]
  | steps + 1, store, build =>
      match build.ending? with
      | some _ => [(store, build)]
      | none => (store, build) :: states steps (build.step store).1 (build.step store).2.1

/-- The next step of a build is a flush that the store carries out. -/
def lands (store : σ) (build : Build β) : Bool :=
  match build.stage with
  | .flushing => (build.writer.flush store).1.isOk
  | .flushingRest => build.writer.pending != 0 && (build.writer.flush store).1.isOk
  | _ => false

/-- How many names had been taken at each flush that was carried out. -/
def flushPoints (passed : List (σ × Build β)) : List Nat :=
  (passed.filter fun state => state.2.lands state.1).map fun state => state.2.namesSeen

/-- How many names have been taken at the last flush that was carried out, when `flushed` is how
many it was before the next step. -/
def flushedAfter (flushed : Nat) (store : σ) (build : Build β) : Nat :=
  if build.lands store then build.namesSeen else flushed

theorem flushedAfter_of_lands {flushed : Nat} {store : σ} {build : Build β}
    (landed : build.lands store = true) : build.flushedAfter flushed store = build.namesSeen :=
  if_pos landed

theorem flushedAfter_of_not_lands {flushed : Nat} {store : σ} {build : Build β}
    (quiet : build.lands store = false) : build.flushedAfter flushed store = flushed :=
  if_neg (by simp [quiet])

theorem ending?_eq_some_iff {build : Build β} {ending : Ending} :
    build.ending? = some ending ↔ build.stage = .finished ending := by
  cases stage : build.stage <;> simp [ending?, stage]

theorem states_of_over {steps : Nat} {store : σ} {build : Build β} {ending : Ending}
    (ended : build.ending? = some ending) : states steps store build = [(store, build)] := by
  cases steps <;> simp [states, ended]

theorem runFor_of_over {steps : Nat} {store : σ} {build : Build β} {ending : Ending}
    (ended : build.ending? = some ending) : runFor steps store build = (store, build, []) := by
  cases steps <;> simp [runFor, ended]

theorem flushPoints_of_over {steps : Nat} {store : σ} {build : Build β} {ending : Ending}
    (ended : build.ending? = some ending) : flushPoints (states steps store build) = [] := by
  have stage := ending?_eq_some_iff.mp ended
  simp [states_of_over ended, flushPoints, lands, stage]

theorem getLastD_flushPoints_cons (flushed : Nat) (store : σ) (build : Build β)
    (passed : List (σ × Build β)) :
    (flushPoints ((store, build) :: passed)).getLastD flushed =
      (flushPoints passed).getLastD (build.flushedAfter flushed store) := by
  cases landed : build.lands store with
  | false =>
      rw [flushPoints, List.filter_cons_of_neg (by simp [landed]),
        flushedAfter_of_not_lands landed]
      rfl
  | true =>
      rw [flushPoints, List.filter_cons_of_pos (by simp [landed]), List.map_cons,
        List.getLastD_cons, flushedAfter_of_lands landed]
      rfl

/-! ## From one step to a run -/

/-- **What every step keeps, with the flushes counted, holds at the end of a run.** -/
theorem runFor_induction {motive : Nat → σ → Build β → Prop}
    (keeps : ∀ flushed store build, motive flushed store build →
      motive (build.flushedAfter flushed store) (build.step store).1 (build.step store).2.1)
    {steps flushed : Nat} {store : σ} {build : Build β} (enough : build.stepsLeft ≤ steps)
    (holds : motive flushed store build) :
    motive ((flushPoints (states steps store build)).getLastD flushed)
      (runFor steps store build).1 (runFor steps store build).2.1 := by
  induction steps generalizing flushed store build with
  | zero =>
      obtain ⟨ending, stage⟩ := exists_stage_runFor store enough
      have ended : build.ending? = some ending := ending?_eq_some_iff.mpr stage
      rw [flushPoints_of_over ended]
      exact holds
  | succ steps inductionHypothesis =>
      cases ended : build.ending? with
      | some ending =>
          rw [flushPoints_of_over ended, runFor_of_over ended]
          exact holds
      | none =>
          have closer := (move_step store build).stepsLeft_lt ended
          simp only [states, runFor, ended, getLastD_flushPoints_cons]
          exact inductionHypothesis (by omega) (keeps flushed store build holds)

/-- **What every step keeps holds in all states.** -/
theorem forall_states {motive : σ → Build β → Prop}
    (keeps : ∀ store build, motive store build →
      motive (build.step store).1 (build.step store).2.1)
    (steps : Nat) {store : σ} {build : Build β} (holds : motive store build) :
    ∀ state ∈ states steps store build, motive state.1 state.2 := by
  induction steps generalizing store build with
  | zero => simpa [states] using holds
  | succ steps inductionHypothesis =>
      cases ended : build.ending? with
      | some ending => simpa [states, ended] using holds
      | none =>
          simp only [states, ended, List.forall_mem_cons]
          exact ⟨holds, inductionHypothesis (keeps store build holds)⟩

section Growth

variable (grows : σ → σ → Prop) (refl : ∀ store, grows store store)
  (trans : ∀ {first second third}, grows first second → grows second third → grows first third)
  (step : ∀ (store : σ) (build : Build β), grows store (build.step store).1)
include refl trans step

theorem grows_runFor (steps : Nat) (store : σ) (build : Build β) :
    grows store (runFor steps store build).1 := by
  induction steps generalizing store build with
  | zero => exact refl store
  | succ steps inductionHypothesis =>
      cases ended : build.ending? with
      | some ending => simpa only [runFor, ended] using refl store
      | none =>
          simp only [runFor, ended]
          exact trans (step store build) (inductionHypothesis _ _)

/-- What no step decreases has grown since the start in every state, and grows up to the end. -/
theorem grows_states (steps : Nat) (store : σ) (build : Build β) :
    ∀ state ∈ states steps store build,
      grows store state.1 ∧ grows state.1 (runFor steps store build).1 := by
  induction steps generalizing store build with
  | zero => simpa [states, runFor] using refl store
  | succ steps inductionHypothesis =>
      cases ended : build.ending? with
      | some ending => simpa [states, runFor, ended] using refl store
      | none =>
          simp only [states, runFor, ended, List.forall_mem_cons]
          refine ⟨⟨refl store, ?_⟩, fun state member => ?_⟩
          · exact trans (step store build) (grows_runFor grows refl trans step _ _ _)
          · obtain ⟨since, until_⟩ := inductionHypothesis _ _ state member
            exact ⟨trans (step store build) since, until_⟩

/-- **What no step decreases grows from each state to every later one.** -/
theorem pairwise_states (steps : Nat) (store : σ) (build : Build β) :
    (states steps store build).Pairwise fun earlier later => grows earlier.1 later.1 := by
  induction steps generalizing store build with
  | zero => simp [states]
  | succ steps inductionHypothesis =>
      cases ended : build.ending? with
      | some ending => simp [states, ended]
      | none =>
          simp only [states, ended, List.pairwise_cons]
          refine ⟨fun state member => ?_, inductionHypothesis _ _⟩
          exact trans (step store build) (grows_states grows refl trans step _ _ _ state member).1

end Growth

end Build

/-! ## Whole builds -/

section Whole

variable {σ β : Type} [RankedStore σ β]

/-- The states that the build of a feed passes through; a build that does not begin has none. -/
def buildStates (enumeration : Enumeration) (store : σ) (batchSize : Int) (feed : Feed) :
    List (σ × Build β) :=
  match (Build.start enumeration store batchSize feed).2 with
  | .error _ => []
  | .ok build => Build.states build.bound store build

/-- A build of a feed that has not taken a step. -/
def Build.fresh (enumeration : Enumeration) (writer : Writer β) (feed : Feed) : Build β :=
  { enumeration, writer, signals := feed.signals, failure := feed.failure, closing := feed.closing }

variable {enumeration : Enumeration} {store : σ} {batchSize : Int} {feed : Feed}
  {writer : Writer β} {fault : SizeFault}

theorem buildStates_of_open (opened : Writer.open? store batchSize = .ok writer) :
    buildStates enumeration store batchSize feed =
      Build.states (Build.fresh enumeration writer feed).bound store
        (Build.fresh enumeration writer feed) := by
  simp only [buildStates, Build.start, opened, Build.fresh]

theorem store_buildIndex_of_open (opened : Writer.open? store batchSize = .ok writer) :
    (buildIndex enumeration store batchSize feed).store =
      ((Build.fresh enumeration writer feed).run store).1 := by
  simp only [buildIndex, Build.start, opened, Build.fresh]

/-- The build that is left at the end has the ending that is reported. -/
theorem stage_run_of_open (opened : Writer.open? store batchSize = .ok writer) :
    ((Build.fresh enumeration writer feed).run store).2.1.stage =
      .finished (buildIndex enumeration store batchSize feed).ending := by
  have reading : (Build.fresh enumeration writer feed).stage = .reading := rfl
  obtain ⟨ending, stage⟩ := Build.exists_stage_run store reading
  have reported : (buildIndex enumeration store batchSize feed).ending = ending := by
    simp only [buildIndex, Build.start, opened]
    change (Build.ending? ((Build.fresh enumeration writer feed).run store).2.1).getD _ = _
    rw [Build.ending?_eq_some_iff.mpr stage, Option.getD_some]
  rw [stage, reported]

theorem store_buildIndex_of_not_open (refused : Writer.open? store batchSize = .error fault) :
    (buildIndex enumeration store batchSize feed).store = store := by
  simp only [buildIndex, Build.start, refused]

theorem buildStates_of_not_open (refused : Writer.open? store batchSize = .error fault) :
    buildStates enumeration store batchSize feed = [] := by
  simp only [buildStates, Build.start, refused]

/-- **What every step keeps, with the flushes counted, holds when a build is over.** -/
theorem buildIndex_induction {motive : Nat → σ → Build β → Prop}
    (opened : Writer.open? store batchSize = .ok writer)
    (begins : motive 0 store (Build.fresh enumeration writer feed))
    (keeps : ∀ flushed store build, motive flushed store build →
      motive (build.flushedAfter flushed store) (build.step store).1 (build.step store).2.1) :
    ∃ build : Build β,
      build.stage = .finished (buildIndex enumeration store batchSize feed).ending ∧
        motive ((Build.flushPoints (buildStates enumeration store batchSize feed)).getLastD 0)
          (buildIndex enumeration store batchSize feed).store build := by
  refine ⟨_, stage_run_of_open opened, ?_⟩
  rw [buildStates_of_open opened, store_buildIndex_of_open opened]
  refine Build.runFor_induction keeps ?_ begins
  simp only [Build.stepsLeft, Build.stepsLeftIn, Build.bound, Build.fresh]
  omega

end Whole

end Typeahead.Index
