import Typeahead.Proofs.Store.Backed
import Typeahead.Proofs.Store.Flush

/-!
# Batches that hold queues

A batch holds a list of additions (`Queueing`).  Opening a batch and emptying it leave this list
empty, and so does an execution, whatever becomes of it.  The batches of stores in memory do this,
on a fault plan or not, and so do those of a server, where the client counts the commands itself.
What a store tells about the size of a batch is the length of its list (`CountsQueues`).
-/

namespace Typeahead.Store

set_option autoImplicit false

/-- A store whose batches hold queues of additions. -/
class Queueing (σ : Type) {β : outParam Type} [RankedStore σ β] where
  /-- the batch holds these additions, in this order, and no others -/
  Holds : β → List Addition → Prop
  holds_openBatch : ∀ store : σ, Holds (RankedStore.openBatch store) []
  holds_add : ∀ {batch : β} {queue : List Addition} (addition : Addition), Holds batch queue →
    Holds (RankedStore.add σ batch addition) (queue ++ [addition])
  holds_discard : ∀ batch : β, Holds (RankedStore.discard σ batch) []
  holds_execute : ∀ (store : σ) {batch : β} {queue : List Addition}, Holds batch queue →
    Holds (RankedStore.execute store batch).2.2 []

/-- A store that tells how many additions a batch holds. -/
class CountsQueues (σ : Type) {β : outParam Type} [RankedStore σ β] [Queueing σ] : Prop where
  queued_eq : ∀ {batch : β} {queue : List Addition}, Queueing.Holds σ batch queue →
    RankedStore.queued σ batch = queue.length

instance (priority := low) {σ β : Type} [RankedStore σ β] [MemoryBacked σ] : Queueing σ where
  Holds batch queue := MemoryBacked.queue σ batch = queue
  holds_openBatch := MemoryBacked.queue_openBatch
  holds_add addition held := held ▸ MemoryBacked.queue_add _ addition
  holds_discard := MemoryBacked.queue_discard
  holds_execute store _ _ _ := MemoryBacked.queue_execute store _

instance : CountsQueues MemoryStore where
  queued_eq held := congrArg List.length held

instance : CountsQueues (Faulty MemoryStore) where
  queued_eq held := congrArg List.length held

namespace ServerBatch

theorem add_filled (queue : List Addition) (addition : Addition) :
    RankedStore.add ServerStore (filled queue) addition = filled (queue ++ [addition]) := by
  rw [filled, filled, List.foldl_append, List.foldl_cons, List.foldl_nil]

end ServerBatch

instance : Queueing ServerStore where
  Holds batch queue := batch = ServerBatch.filled queue
  holds_openBatch _ := rfl
  holds_add addition held := held ▸ ServerBatch.add_filled _ addition
  holds_discard _ := rfl
  holds_execute server _ queue held := held ▸ ServerStore.batch_execute server queue

instance : CountsQueues ServerStore where
  queued_eq held := by rw [held, ServerBatch.filled_eq]; rfl

end Typeahead.Store
