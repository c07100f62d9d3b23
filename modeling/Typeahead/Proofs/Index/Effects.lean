import Typeahead.Proofs.Index.Queue
import Typeahead.Proofs.Index.Trace

/-!
# What a step of a build does to the store

A step of a build leaves the store alone or executes the batch of its writer
(`store_cases`).  The sets of the store change only when that lands, and then by the
queued additions (`content_step`).  On a store with a fault plan, no step changes the
plan or sends a ping.
-/

namespace Typeahead.Index.Build

open Typeahead.Store

set_option autoImplicit false

section Generic

variable {σ β : Type} [RankedStore σ β]

/-- A move of a build leaves the store alone or executes the batch on it. -/
theorem Move.store_cases {store after : σ} {build next : Build β}
    (move : Move store build after next) :
    after = store ∨ after = (RankedStore.execute store build.writer.batch).2.1 := by
  cases move with
  | flush => exact .inr (Writer.store_flush store build.writer)
  | failFlush => exact .inr (Writer.store_flush store build.writer)
  | flushRest => exact .inr (Writer.store_flush store build.writer)
  | failRest => exact .inr (Writer.store_flush store build.writer)
  | _ => exact .inl rfl

/-- **A step of a build leaves the sets of the store alone, or the queue of its batch lands.** -/
theorem content_step [MemoryBacked σ] (store : σ) (build : Build β) :
    MemoryBacked.content (build.step store).1 =
      if build.lands store then
        (MemoryBacked.content store).insertAll (MemoryBacked.queue σ build.writer.batch)
      else MemoryBacked.content store := by
  have landed : ∀ {writer : Writer β}, (writer.flush store).1 = .ok () →
      MemoryBacked.content (writer.flush store).2.1 =
        (MemoryBacked.content store).insertAll (MemoryBacked.queue σ writer.batch) := by
    intro writer succeeded
    obtain ⟨count, executed⟩ := Writer.exists_executed succeeded
    rw [Writer.store_flush]
    exact MemoryBacked.content_execute_of_ok store writer.batch count executed
  have move := move_step store build
  generalize (build.step store).1 = after, (build.step store).2.1 = next at move
  cases move with
  | flush stage succeeded =>
      rw [if_pos (by simp [lands, stage, succeeded, Except.isOk, Except.toBool])]
      exact landed succeeded
  | flushRest stage some succeeded =>
      rw [if_pos (by simp [lands, stage, some, succeeded, Except.isOk, Except.toBool])]
      exact landed succeeded
  | failFlush stage failed =>
      rw [if_neg (by simp [lands, stage, failed, Except.isOk, Except.toBool])]
      exact Writer.content_flush_of_error failed
  | failRest stage some failed =>
      rw [if_neg (by simp [lands, stage, failed, Except.isOk, Except.toBool])]
      exact Writer.content_flush_of_error failed
  | endEmpty stage empty => rw [if_neg (by simp [lands, stage, empty])]
  | _ stage => rw [if_neg (by simp [lands, stage])]

end Generic

/-! ## Stores on a fault plan -/

variable {β : Type}

/-- Executing a batch changes neither the plan of a store nor the count of its pings. -/
theorem plan_execute {σ : Type} [RankedStore σ β] (store : Faulty σ) (batch : β) :
    (RankedStore.execute store batch).2.1.plan = store.plan ∧
      (RankedStore.execute store batch).2.1.pinged = store.pinged := by
  by_cases refused : store.RefusesNext
  · rw [Faulty.execute_of_refused refused]
    exact ⟨rfl, rfl⟩
  · rw [Faulty.execute_of_not_refused refused]
    exact ⟨rfl, rfl⟩

/-- A build leaves the plan of its store as it is and does not ping it. -/
theorem plan_step {σ : Type} [RankedStore σ β] (store : Faulty σ) (build : Build β) :
    (build.step store).1.plan = store.plan ∧ (build.step store).1.pinged = store.pinged := by
  rcases (move_step store build).store_cases with same | executed
  · rw [same]
    exact ⟨rfl, rfl⟩
  · rw [executed]
    exact plan_execute store build.writer.batch

end Typeahead.Index.Build
