import Typeahead.Proofs.Store.Content
import Typeahead.Store.Faulty

/-!
# Stores that keep their sets in memory

Such a store has a content, and its batches are queues of additions.  Executing
a batch empties the queue; it either applies all of it to the content or, when
it fails, nothing (`MemoryBacked`).  A store in memory is one, and so is a store
on a fault plan above one.
-/

namespace Typeahead.Store

set_option autoImplicit false

/-- A store whose sets are those of a store in memory. -/
class MemoryBacked (σ : Type) {β : outParam Type} [RankedStore σ β] where
  /-- the sets of the store -/
  content : σ → MemoryStore
  /-- the additions that wait in a batch -/
  queue : β → List Addition
  queue_openBatch : ∀ store : σ, queue (RankedStore.openBatch store) = []
  queue_add : ∀ (batch : β) (addition : Addition),
    queue (RankedStore.add σ batch addition) = queue batch ++ [addition]
  queue_discard : ∀ batch : β, queue (RankedStore.discard σ batch) = []
  queue_execute : ∀ (store : σ) (batch : β), queue (RankedStore.execute store batch).2.2 = []
  content_execute_of_ok : ∀ (store : σ) (batch : β) (count : Nat),
    (RankedStore.execute store batch).1 = .ok count →
      content (RankedStore.execute store batch).2.1 = (content store).insertAll (queue batch)
  content_execute_of_error : ∀ (store : σ) (batch : β) (fault : FlushFault),
    (RankedStore.execute store batch).1 = .error fault →
      content (RankedStore.execute store batch).2.1 = content store

instance : MemoryBacked MemoryStore where
  content store := store
  queue batch := batch.additions
  queue_openBatch _ := rfl
  queue_add _ _ := rfl
  queue_discard _ := rfl
  queue_execute _ _ := rfl
  content_execute_of_ok _ _ _ _ := rfl
  content_execute_of_error _ _ _ failed := by cases failed

/-! ## Stores on a fault plan -/

namespace Faulty

variable {σ β : Type} [RankedStore σ β]

/-- The plan has the next execution refused. -/
def RefusesNext (store : Faulty σ) : Prop :=
  ((store.executed + 1 : Nat) : Int) ∈ store.plan.executions

/-- An execution that is refused leaves the store below it alone and empties the queue. -/
theorem execute_of_refused {store : Faulty σ} (refused : store.RefusesNext) (batch : β) :
    RankedStore.execute store batch =
      (.error (.refused store.plan.refusal), { store with executed := store.executed + 1 },
        RankedStore.discard σ batch) := by
  have listed : store.plan.executions.contains ((store.executed + 1 : Nat) : Int) = true :=
    List.contains_iff_mem.mpr refused
  change Faulty.execute store batch = _
  simp only [Faulty.execute, listed, if_true]

/-- An execution that is not refused is one of the store below. -/
theorem execute_of_not_refused {store : Faulty σ} (accepted : ¬ store.RefusesNext) (batch : β) :
    RankedStore.execute store batch =
      ((RankedStore.execute store.base batch).1,
        { store with executed := store.executed + 1,
                     base := (RankedStore.execute store.base batch).2.1 },
        (RankedStore.execute store.base batch).2.2) := by
  have unlisted : ¬ store.plan.executions.contains ((store.executed + 1 : Nat) : Int) = true :=
    fun listed => accepted (List.contains_iff_mem.mp listed)
  change Faulty.execute store batch = _
  simp only [Faulty.execute, unlisted]
  rfl

end Faulty

instance {σ β : Type} [RankedStore σ β] [MemoryBacked σ] : MemoryBacked (Faulty σ) where
  content store := MemoryBacked.content store.base
  queue := MemoryBacked.queue σ
  queue_openBatch store := MemoryBacked.queue_openBatch store.base
  queue_add := MemoryBacked.queue_add
  queue_discard := MemoryBacked.queue_discard
  queue_execute store batch := by
    by_cases refused : store.RefusesNext
    · rw [Faulty.execute_of_refused refused]
      exact MemoryBacked.queue_discard batch
    · rw [Faulty.execute_of_not_refused refused]
      exact MemoryBacked.queue_execute store.base batch
  content_execute_of_ok store batch count succeeded := by
    by_cases refused : store.RefusesNext
    · rw [Faulty.execute_of_refused refused] at succeeded
      cases succeeded
    · rw [Faulty.execute_of_not_refused refused] at succeeded ⊢
      exact MemoryBacked.content_execute_of_ok store.base batch count succeeded
  content_execute_of_error store batch fault failed := by
    by_cases refused : store.RefusesNext
    · rw [Faulty.execute_of_refused refused]
    · rw [Faulty.execute_of_not_refused refused] at failed ⊢
      exact MemoryBacked.content_execute_of_error store.base batch fault failed

end Typeahead.Store
