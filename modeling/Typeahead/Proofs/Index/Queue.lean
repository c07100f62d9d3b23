import Typeahead.Proofs.Index.Indexed
import Typeahead.Proofs.Store.Queueing

/-!
# What a writer has queued

A writer queues pairs in order and counts them (`Queues`).  After a flush nothing
is queued; one that succeeds adds what was queued to the counters of the writer,
and one that fails leaves them alone.  On a store that keeps its sets in memory, a
flush that succeeds puts in exactly the queued pairs, and one that fails puts in
none.
-/

namespace Typeahead.Index

open Typeahead.Store

set_option autoImplicit false

namespace Writer

variable {σ β : Type} [RankedStore σ β] {writer : Writer β} {pairs : List Pair}

section Queued

variable [Queueing σ]

variable (σ) in
/-- The writer has these pairs queued, and has counted them. -/
structure Queues (writer : Writer β) (pairs : List Pair) : Prop where
  holds : Queueing.Holds σ writer.batch (pairs.map addition)
  pending_eq : writer.pending = pairs.length

omit [Queueing σ] in
/-- A batch size of one or more is accepted. -/
theorem exists_opened (store : σ) {batchSize : Int} (positive : 1 ≤ batchSize) :
    ∃ writer : Writer β, open? store batchSize = .ok writer := by
  have counted : 0 < batchSize.toNat := by omega
  exact ⟨_, dif_pos counted⟩

/-- A batch size of one or more is accepted, and nothing is queued in the writer. -/
theorem exists_open?_eq (store : σ) {batchSize : Int} (positive : 1 ≤ batchSize) :
    ∃ writer : Writer β, open? store batchSize = .ok writer ∧ writer.Queues σ [] := by
  have counted : 0 < batchSize.toNat := by omega
  refine ⟨_, dif_pos counted, ?_, rfl⟩
  exact Queueing.holds_openBatch store

omit [Queueing σ] in
/-- A batch size below one is refused. -/
theorem open?_eq_error (store : σ) {batchSize : Int} (small : batchSize < 1) :
    open? store batchSize = .error .tooSmall := by
  have zero : ¬ 0 < batchSize.toNat := by omega
  exact dif_neg zero

omit [Queueing σ] in
/-- A writer that has just been opened has counted nothing. -/
theorem counts_of_open? {store : σ} {batchSize : Int}
    (opened : open? store batchSize = .ok writer) :
    (writer.batchSize : Int) = batchSize ∧ writer.pairsWritten = 0 ∧ writer.batchesFlushed = 0 := by
  rw [open?] at opened
  split at opened
  next counted =>
    cases opened
    exact ⟨Int.toNat_of_nonneg (by omega), rfl, rfl⟩
  next => cases opened

theorem Queues.add (queues : writer.Queues σ pairs) (pair : Pair) :
    (writer.add σ pair).Queues σ (pairs ++ [pair]) where
  holds := by
    rw [List.map_append, List.map_singleton]
    exact Queueing.holds_add (addition pair) queues.holds
  pending_eq := by
    rw [List.length_append, List.length_singleton, ← queues.pending_eq]
    rfl

theorem Queues.addAll (queues : writer.Queues σ pairs) (more : List Pair) :
    (writer.addAll σ more).Queues σ (pairs ++ more) := by
  induction more generalizing writer pairs with
  | nil =>
      rw [List.append_nil]
      exact queues
  | cons pair more inductionHypothesis =>
      rw [List.append_cons]
      exact inductionHypothesis (queues.add pair)

omit [Queueing σ] in
/-- Queueing pairs counts them as pending, and touches no other counter. -/
theorem counts_addAll (writer : Writer β) (more : List Pair) :
    (writer.addAll σ more).pending = writer.pending + more.length ∧
      (writer.addAll σ more).batchSize = writer.batchSize ∧
      (writer.addAll σ more).pairsWritten = writer.pairsWritten ∧
      (writer.addAll σ more).batchesFlushed = writer.batchesFlushed := by
  induction more generalizing writer with
  | nil => exact ⟨rfl, rfl, rfl, rfl⟩
  | cons pair more inductionHypothesis =>
      obtain ⟨pending, size, written, flushed⟩ := inductionHypothesis (writer.add σ pair)
      refine ⟨?_, size, written, flushed⟩
      rw [List.length_cons, ← Nat.add_assoc, Nat.add_right_comm]
      exact pending

theorem Queues.isEmpty_iff (queues : writer.Queues σ pairs) : writer.pending = 0 ↔ pairs = [] := by
  rw [queues.pending_eq, List.length_eq_zero_iff]

/-- The batch of a writer is as large as the writer says. -/
theorem Queues.queued_eq [CountsQueues σ] (queues : writer.Queues σ pairs) :
    RankedStore.queued σ writer.batch = writer.pending := by
  rw [CountsQueues.queued_eq queues.holds, queues.pending_eq, List.length_map]

variable (σ) in
/-- In a writer that is closed nothing is queued. -/
theorem queues_close (writer : Writer β) : (writer.close σ).Queues σ [] :=
  ⟨Queueing.holds_discard writer.batch, rfl⟩

end Queued

/-! ## Flushes -/

theorem store_flush (store : σ) (writer : Writer β) :
    (writer.flush store).2.1 = (RankedStore.execute store writer.batch).2.1 := by
  rw [flush]
  split
  · rfl
  · rfl

theorem batch_flush (store : σ) (writer : Writer β) :
    (writer.flush store).2.2.batch = (RankedStore.execute store writer.batch).2.2 := by
  rw [flush]
  split
  · rfl
  · rfl

theorem pending_flush (store : σ) (writer : Writer β) : (writer.flush store).2.2.pending = 0 := by
  rw [flush]
  split
  · rfl
  · rfl

/-- A flush succeeds only where its batch was executed. -/
theorem exists_executed {store : σ} (succeeded : (writer.flush store).1 = .ok ()) :
    ∃ count, (RankedStore.execute store writer.batch).1 = .ok count := by
  cases executed : (RankedStore.execute store writer.batch).1 with
  | ok count => exact ⟨count, rfl⟩
  | error fault =>
      simp only [flush, executed] at succeeded
      cases succeeded

/-- The fault of a flush is the fault of executing its batch. -/
theorem executed_eq_error {store : σ} {fault : FlushFault}
    (failed : (writer.flush store).1 = .error fault) :
    (RankedStore.execute store writer.batch).1 = .error fault := by
  cases executed : (RankedStore.execute store writer.batch).1 with
  | ok count =>
      simp only [flush, executed] at failed
      cases failed
  | error other =>
      simp only [flush, executed] at failed
      cases failed
      rfl

/-- After a flush nothing is queued. -/
theorem Queues.flush [Queueing σ] (queues : writer.Queues σ pairs) (store : σ) :
    (writer.flush store).2.2.Queues σ [] where
  holds := by
    rw [batch_flush]
    exact Queueing.holds_execute store queues.holds
  pending_eq := pending_flush store writer

/-- A flush that succeeds counts what was queued as written. -/
theorem counts_flush_of_ok {store : σ} (succeeded : (writer.flush store).1 = .ok ()) :
    (writer.flush store).2.2.pairsWritten = writer.pairsWritten + writer.pending ∧
      (writer.flush store).2.2.batchesFlushed = writer.batchesFlushed + 1 := by
  obtain ⟨count, executed⟩ := exists_executed succeeded
  simp only [Writer.flush, executed, and_self]

/-- A flush that fails counts nothing. -/
theorem counts_flush_of_error {store : σ} {fault : FlushFault}
    (failed : (writer.flush store).1 = .error fault) :
    (writer.flush store).2.2.pairsWritten = writer.pairsWritten ∧
      (writer.flush store).2.2.batchesFlushed = writer.batchesFlushed := by
  simp only [Writer.flush, executed_eq_error failed, and_self]

theorem batchSize_flush (store : σ) (writer : Writer β) :
    (writer.flush store).2.2.batchSize = writer.batchSize := by
  rw [Writer.flush]
  split
  · rfl
  · rfl

/-! ## Flushes to stores in memory -/

section Backed

variable [MemoryBacked σ]

/-- **A flush that succeeds puts in what was queued.** -/
theorem Queues.content_flush_of_ok {store : σ} (queues : writer.Queues σ pairs)
    (succeeded : (writer.flush store).1 = .ok ()) :
    MemoryBacked.content (writer.flush store).2.1 =
      (MemoryBacked.content store).addPairs pairs := by
  obtain ⟨count, executed⟩ := exists_executed succeeded
  have held : MemoryBacked.queue σ writer.batch = pairs.map addition := queues.holds
  rw [store_flush, MemoryBacked.content_execute_of_ok store writer.batch count executed, held]
  rfl

/-- **A flush that fails puts in nothing.** -/
theorem content_flush_of_error {store : σ} {fault : FlushFault}
    (failed : (writer.flush store).1 = .error fault) :
    MemoryBacked.content (writer.flush store).2.1 = MemoryBacked.content store := by
  rw [store_flush]
  exact MemoryBacked.content_execute_of_error store writer.batch fault (executed_eq_error failed)

end Backed

end Writer

end Typeahead.Index
