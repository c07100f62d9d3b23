import Typeahead.Proofs.Catalog.Names
import Typeahead.Proofs.Index.Queue
import Typeahead.Proofs.Index.Trace

/-!
# How far a build has come

In every state of a build the store holds what it held at the beginning and all
pairs of the names that had been taken at the last flush; the pairs of the names
that have been taken since are queued, and the other names are still to come
(`Progress`).  The batch is flushed between two names only, so each step keeps
this (`Progress.step`), and so does a whole build (`content_buildIndex`).  Once
pairs are dropped nothing is put into the store any more.
-/

namespace Typeahead.Index

open Typeahead.Catalog Typeahead.Store

set_option autoImplicit false

/-- The feed is still read in this stage. -/
def Stage.isReading : Stage → Bool
  | .reading => true
  | .flushing => true
  | _ => false

/-- What is queued in this stage will be flushed, if nothing fails. -/
def Stage.isWriting : Stage → Bool
  | .reading => true
  | .flushing => true
  | .flushingRest => true
  | _ => false

namespace Build

variable {σ β : Type} [RankedStore σ β] [MemoryBacked σ]

/-- The pairs of the names that have been taken since so many had been flushed. -/
def pairsSince (build : Build β) (names : List String) (flushed : Nat) : List Pair :=
  ((names.take build.namesSeen).drop flushed).flatMap build.enumeration.pairs

/-- How far a build of some names has come that began on a store with the given content, when
`flushed` names had been taken at the last flush. -/
structure Progress (initial : MemoryStore) (names : List String) (flushed : Nat) (store : σ)
    (build : Build β) : Prop where
  content_eq : MemoryBacked.content store = initial.indexed (names.take flushed)
  flushed_le : flushed ≤ build.namesSeen
  seen_le : build.namesSeen ≤ names.length
  ahead : build.stage.isReading → namesAhead build.pass build.signals = names.drop build.namesSeen
  queues : build.stage.isWriting → build.writer.Queues σ (build.pairsSince names flushed)
  seen_eq : build.stage = .flushingRest → build.namesSeen = names.length
  whole : ∀ counters, build.stage = .finished (.built counters) →
    MemoryBacked.content store = initial.indexed names

omit [MemoryBacked σ] in
theorem isWriting_breakOff (build : Build β) (fault : BuildFault) :
    (build.breakOff σ fault).stage.isWriting = false := by
  cases closing : build.closing <;> simp [breakOff, closing, Stage.isWriting]

omit [MemoryBacked σ] in
theorem namesSeen_breakOff (build : Build β) (fault : BuildFault) :
    (build.breakOff σ fault).namesSeen = build.namesSeen := by
  cases closing : build.closing <;> simp [breakOff, closing, finish]

omit [MemoryBacked σ] in
theorem stage_breakOff_ne (build : Build β) (fault : BuildFault) (counters : Counters) :
    (build.breakOff σ fault).stage ≠ .finished (.built counters) := by
  cases closing : build.closing <;> simp [breakOff, closing]

namespace Progress

variable {initial : MemoryStore} {names : List String} {flushed : Nat} {store : σ}
  {build : Build β}

/-- A build that has not taken a name yet. -/
theorem start (stage : build.stage = .reading) (none : build.namesSeen = 0)
    (ahead : namesAhead build.pass build.signals = names) (queues : build.writer.Queues σ []) :
    Progress (MemoryBacked.content store) names 0 store build where
  content_eq := rfl
  flushed_le := Nat.zero_le _
  seen_le := by omega
  ahead _ := by rw [none, ahead, List.drop_zero]
  queues _ := by
    rw [pairsSince, none, List.take_zero, List.drop_zero, List.flatMap_nil]
    exact queues
  seen_eq ended := by simp [stage] at ended
  whole _ ended := by simp [stage] at ended

/-- The store with the queued pairs put in has all names that have been taken. -/
theorem addPairs_pairsSince (progress : Progress initial names flushed store build) :
    (MemoryBacked.content store).addPairs (build.pairsSince names flushed) =
      initial.indexed (names.take build.namesSeen) := by
  have since : names.take build.namesSeen =
      names.take flushed ++ (names.take build.namesSeen).drop flushed := by
    have parts := List.take_append_drop flushed (names.take build.namesSeen)
    rw [List.take_take, Nat.min_eq_left progress.flushed_le] at parts
    exact parts.symm
  calc
    _ = (initial.indexed (names.take flushed)).indexed
          ((names.take build.namesSeen).drop flushed) := by
        rw [progress.content_eq, pairsSince, MemoryStore.addPairs_flatMap_pairs]
    _ = initial.indexed (names.take build.namesSeen) := by
        rw [← MemoryStore.indexed_append, ← since]

/-- A build that drops its queue keeps the store as it is. -/
theorem drop {next : Build β} (progress : Progress initial names flushed store build)
    {after : σ} (kept : MemoryBacked.content after = MemoryBacked.content store)
    (seen : next.namesSeen = build.namesSeen) (dropped : next.stage.isWriting = false)
    (unbuilt : ∀ counters, next.stage ≠ .finished (.built counters)) :
    Progress initial names flushed after next where
  content_eq := kept.trans progress.content_eq
  flushed_le := seen ▸ progress.flushed_le
  seen_le := seen ▸ progress.seen_le
  ahead reading := by
    cases stage : next.stage <;> simp [stage, Stage.isReading, Stage.isWriting] at reading dropped
  queues writing := by simp [dropped] at writing
  seen_eq ended := by simp [ended, Stage.isWriting] at dropped
  whole counters ended := (unbuilt counters ended).elim

/-- A build that takes the next name and queues its pairs. -/
theorem take {next : Build β} {name : String} {rest : List String}
    (progress : Progress initial names flushed store build)
    (ahead : names.drop build.namesSeen = name :: rest)
    (seen : next.namesSeen = build.namesSeen + 1)
    (enumeration : next.enumeration = build.enumeration) (reading : next.stage.isReading = true)
    (nextAhead : namesAhead next.pass next.signals = rest)
    (queues : next.writer.Queues σ
      (build.pairsSince names flushed ++ build.enumeration.pairs name)) :
    Progress initial names flushed store next := by
  have one : 1 ≤ names.length - build.namesSeen := by
    rw [← List.length_drop, ahead, List.length_cons]
    exact Nat.le_add_left 1 _
  have taken : names.take (build.namesSeen + 1) = names.take build.namesSeen ++ [name] := by
    rw [List.take_add, ahead]
    rfl
  have inside : flushed ≤ (names.take build.namesSeen).length := by
    rw [List.length_take, Nat.min_eq_left progress.seen_le]
    exact progress.flushed_le
  have since : next.pairsSince names flushed =
      build.pairsSince names flushed ++ build.enumeration.pairs name := by
    rw [pairsSince, pairsSince, seen, enumeration, taken, List.drop_append_of_le_length inside,
      List.flatMap_append, List.flatMap_singleton]
  exact {
    content_eq := progress.content_eq
    flushed_le := by
      rw [seen]
      exact Nat.le_succ_of_le progress.flushed_le
    seen_le := by omega
    ahead := fun _ => by
      rw [nextAhead, seen, ← List.drop_drop, ahead, List.drop_one, List.tail_cons]
    queues := fun _ => since ▸ queues
    seen_eq := fun ended => by simp [ended, Stage.isReading] at reading
    whole := fun counters ended => by simp [ended, Stage.isReading] at reading }

/-- A build whose queue has been flushed. -/
theorem flush {next : Build β} {after : σ}
    (progress : Progress initial names flushed store build)
    (content : MemoryBacked.content after =
      (MemoryBacked.content store).addPairs (build.pairsSince names flushed))
    (seen : next.namesSeen = build.namesSeen)
    (ahead : next.stage.isReading →
      namesAhead next.pass next.signals = names.drop build.namesSeen)
    (queues : next.stage.isWriting → next.writer.Queues σ [])
    (ended : next.stage.isReading = false → build.namesSeen = names.length) :
    Progress initial names build.namesSeen after next where
  content_eq := content.trans progress.addPairs_pairsSince
  flushed_le := Nat.le_of_eq seen.symm
  seen_le := seen ▸ progress.seen_le
  ahead reading := by rw [ahead reading, seen]
  queues writing := by
    rw [pairsSince, seen, List.drop_take_self, List.flatMap_nil]
    exact queues writing
  seen_eq stage := by rw [seen, ended (by simp [stage, Stage.isReading])]
  whole counters stage := by
    have all := ended (by simp [stage, Stage.isReading])
    rw [content, progress.addPairs_pairsSince, all, List.take_length]

/-- A build whose feed is over has taken all names. -/
theorem endFeed (progress : Progress initial names flushed store build)
    (stage : build.stage = .reading) (ended : build.signals = []) :
    Progress initial names flushed store { build with stage := .flushingRest } := by
  have reading : build.stage.isReading := by simp [stage, Stage.isReading]
  have writing : build.stage.isWriting := by simp [stage, Stage.isWriting]
  have ahead := progress.ahead reading
  rw [ended, namesAhead_nil] at ahead
  have all : build.namesSeen = names.length :=
    Nat.le_antisymm progress.seen_le (List.drop_eq_nil_iff.mp ahead.symm)
  exact {
    content_eq := progress.content_eq
    flushed_le := progress.flushed_le
    seen_le := progress.seen_le
    ahead := fun reading => by simp [Stage.isReading] at reading
    queues := fun _ => progress.queues writing
    seen_eq := fun _ => all
    whole := fun counters built => by simp at built }

/-- A build that has taken all names and has nothing queued leaves all of them. -/
theorem endEmpty (progress : Progress initial names flushed store build)
    (stage : build.stage = .flushingRest) (empty : build.writer.pending = 0)
    {counters : Counters} :
    Progress initial names flushed store (build.finish σ (.built counters)) := by
  have writing : build.stage.isWriting := by simp [stage, Stage.isWriting]
  have nothing := (progress.queues writing).isEmpty_iff.mp empty
  have all := progress.addPairs_pairsSince
  rw [nothing, progress.seen_eq stage, List.take_length] at all
  exact {
    content_eq := progress.content_eq
    flushed_le := progress.flushed_le
    seen_le := progress.seen_le
    ahead := fun reading => by simp [Stage.isReading, finish] at reading
    queues := fun writing => by simp [Stage.isWriting, finish] at writing
    seen_eq := fun ended => by simp [finish] at ended
    whole := fun _ _ => all }

/-- **Every move of a build keeps its progress.** -/
theorem move {after : σ} {next : Build β} (progress : Progress initial names flushed store build)
    (move : Move store build after next) :
    Progress initial names (build.flushedAfter flushed store) after next := by
  cases move with
  | pause stage signals =>
      have reading : build.stage.isReading := by simp [stage, Stage.isReading]
      rw [flushedAfter_of_not_lands (by simp [lands, stage])]
      refine { progress with ahead := fun _ => ?_ }
      rw [← progress.ahead reading, signals, namesAhead_pause]
  | skip stage signals nothing =>
      have reading : build.stage.isReading := by simp [stage, Stage.isReading]
      rw [flushedAfter_of_not_lands (by simp [lands, stage])]
      refine { progress with ahead := fun _ => ?_ }
      rw [← progress.ahead reading, signals, namesAhead_line_of_none nothing]
  | ignore stage signals found short =>
      have reading : build.stage.isReading := by simp [stage, Stage.isReading]
      have writing : build.stage.isWriting := by simp [stage, Stage.isWriting]
      have ahead := progress.ahead reading
      rw [signals, namesAhead_line_of_some found] at ahead
      rw [flushedAfter_of_not_lands (by simp [lands, stage])]
      refine progress.take ahead.symm rfl rfl reading rfl ?_
      rw [short, List.append_nil]
      exact progress.queues writing
  | queue stage signals found long =>
      have reading : build.stage.isReading := by simp [stage, Stage.isReading]
      have writing : build.stage.isWriting := by simp [stage, Stage.isWriting]
      have ahead := progress.ahead reading
      rw [signals, namesAhead_line_of_some found] at ahead
      rw [flushedAfter_of_not_lands (by simp [lands, stage])]
      refine progress.take ahead.symm rfl rfl ?_ rfl ((progress.queues writing).addAll _)
      dsimp only
      split <;> rfl
  | endFeed stage ended whole =>
      rw [flushedAfter_of_not_lands (by simp [lands, stage])]
      exact progress.endFeed stage ended
  | failFeed stage ended fails =>
      rw [flushedAfter_of_not_lands (by simp [lands, stage])]
      exact progress.drop rfl rfl rfl (by simp)
  | flush stage succeeded =>
      have reading : build.stage.isReading := by simp [stage, Stage.isReading]
      have writing : build.stage.isWriting := by simp [stage, Stage.isWriting]
      rw [flushedAfter_of_lands (by simp [lands, stage, succeeded, Except.isOk, Except.toBool])]
      exact progress.flush ((progress.queues writing).content_flush_of_ok succeeded) rfl
        (fun _ => progress.ahead reading) (fun _ => (progress.queues writing).flush store)
        (fun other => by simp [Stage.isReading] at other)
  | failFlush stage failed =>
      rw [flushedAfter_of_not_lands (by simp [lands, stage, failed, Except.isOk, Except.toBool])]
      exact progress.drop (Writer.content_flush_of_error failed) (namesSeen_breakOff _ _)
        (isWriting_breakOff _ _) fun counters => stage_breakOff_ne _ _ counters
  | endEmpty stage empty =>
      rw [flushedAfter_of_not_lands (by simp [lands, stage, empty])]
      exact progress.endEmpty stage empty
  | flushRest stage some succeeded =>
      have writing : build.stage.isWriting := by simp [stage, Stage.isWriting]
      rw [flushedAfter_of_lands
        (by simp [lands, stage, some, succeeded, Except.isOk, Except.toBool])]
      exact progress.flush ((progress.queues writing).content_flush_of_ok succeeded) rfl
        (fun reading => by simp [Stage.isReading] at reading)
        (fun writing => by simp [Stage.isWriting] at writing)
        (fun _ => progress.seen_eq stage)
  | failRest stage some failed =>
      rw [flushedAfter_of_not_lands (by simp [lands, stage, failed, Except.isOk, Except.toBool])]
      exact progress.drop (Writer.content_flush_of_error failed) rfl rfl (by simp)
  | close stage =>
      rw [flushedAfter_of_not_lands (by simp [lands, stage])]
      exact progress.drop rfl rfl rfl (by simp)
  | closed stage =>
      rw [flushedAfter_of_not_lands (by simp [lands, stage])]
      exact progress.drop rfl rfl rfl (by simp)
  | rest stage =>
      rw [flushedAfter_of_not_lands (by simp [lands, stage])]
      exact progress

/-- **Every step of a build keeps its progress.** -/
theorem step (progress : Progress initial names flushed store build) :
    Progress initial names (build.flushedAfter flushed store) (build.step store).1
      (build.step store).2.1 :=
  progress.move (move_step store build)

end Progress

end Build

/-! ## Whole builds -/

section Whole

variable {σ β : Type} [RankedStore σ β] [MemoryBacked σ]

theorem progress_fresh (enumeration : Enumeration) (store : σ) (feed : Feed) {writer : Writer β}
    (empty : writer.Queues σ []) :
    Build.Progress (MemoryBacked.content store) feed.names 0 store
      (Build.fresh enumeration writer feed) :=
  .start rfl rfl feed.names_eq.symm empty

/-- **A build leaves the names that had been taken at its last flush in the store, and a build
that succeeds leaves all names.** -/
theorem content_buildIndex (enumeration : Enumeration) (store : σ) {batchSize : Int}
    (positive : 1 ≤ batchSize) (feed : Feed) :
    let flushed := (Build.flushPoints (buildStates enumeration store batchSize feed)).getLastD 0
    let result := buildIndex enumeration store batchSize feed
    flushed ≤ feed.names.length ∧
      MemoryBacked.content result.store =
        (MemoryBacked.content store).indexed (feed.names.take flushed) ∧
      ∀ counters, result.ending = .built counters →
        MemoryBacked.content result.store = (MemoryBacked.content store).indexed feed.names := by
  intro flushed result
  obtain ⟨writer, opened, empty⟩ := Writer.exists_open?_eq store positive
  obtain ⟨build, stage, progress⟩ :=
    buildIndex_induction opened (progress_fresh enumeration store feed empty)
      fun _ _ _ progress => progress.step
  refine ⟨Nat.le_trans progress.flushed_le progress.seen_le, progress.content_eq, ?_⟩
  intro counters built
  exact progress.whole counters (stage.trans (congrArg Stage.finished built))

/-- **In every state that a build passes through, the store holds all pairs of some first names
and nothing else of the feed.** -/
theorem content_buildStates (enumeration : Enumeration) (store : σ) (batchSize : Int)
    (feed : Feed) :
    ∀ state ∈ buildStates enumeration store batchSize feed, ∃ flushed,
      MemoryBacked.content state.1 =
        (MemoryBacked.content store).indexed (feed.names.take flushed) := by
  by_cases positive : 1 ≤ batchSize
  · obtain ⟨writer, opened, empty⟩ := Writer.exists_open?_eq store positive
    rw [buildStates_of_open opened]
    intro state member
    obtain ⟨flushed, progress⟩ := Build.forall_states
      (motive := fun current build => ∃ flushed,
        Build.Progress (MemoryBacked.content store) feed.names flushed current build)
      (fun _ _ ⟨_, progress⟩ => ⟨_, progress.step⟩) _
      ⟨0, progress_fresh enumeration store feed empty⟩ state member
    exact ⟨flushed, progress.content_eq⟩
  · rw [buildStates_of_not_open (Writer.open?_eq_error store (by omega))]
    intro state member
    cases member

end Whole

end Typeahead.Index
