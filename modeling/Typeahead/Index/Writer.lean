import Typeahead.Index.Expansion
import Typeahead.Store.Ranked

/-!
# Writing the index in batches

A writer queues pairs in one batch of a store and counts them.  It flushes the
batch when enough pairs are queued, or when it is told to flush the rest.  A
flush that fails loses its pairs: they are neither pending nor written.
-/

namespace Typeahead.Index

open Typeahead.Store

set_option autoImplicit false

/-- A batch size below one is refused. -/
inductive SizeFault where
  | tooSmall
  deriving DecidableEq, Repr, Inhabited

/-- What is said about a batch size below one. -/
def SizeFault.message : SizeFault → String
  | .tooSmall => "batch_size must be >= 1"

/-- A batch of a store with its counters. -/
structure Writer (β : Type) where
  /-- how many pairs trigger a flush -/
  batchSize : Nat
  batchSize_pos : 0 < batchSize
  batch : β
  /-- how many pairs are queued -/
  pending : Nat := 0
  /-- how many pairs have been flushed -/
  pairsWritten : Nat := 0
  /-- how many batches have been flushed -/
  batchesFlushed : Nat := 0

namespace Writer

variable {σ β : Type} [RankedStore σ β]

/-- A writer with a batch of its own. -/
def open? (store : σ) (batchSize : Int) : Except SizeFault (Writer β) :=
  if positive : 0 < batchSize.toNat then
    .ok { batchSize := batchSize.toNat, batchSize_pos := positive,
          batch := RankedStore.openBatch store }
  else .error .tooSmall

/-- The addition that puts a pair into the index. -/
def addition (pair : Pair) : Addition := ⟨pair.key, pair.name, .zero⟩

variable (σ) in
/-- Queues a pair. -/
def add (writer : Writer β) (pair : Pair) : Writer β :=
  { writer with batch := RankedStore.add σ writer.batch (addition pair),
                pending := writer.pending + 1 }

variable (σ) in
/-- Queues pairs in order. -/
def addAll (writer : Writer β) (pairs : List Pair) : Writer β :=
  pairs.foldl (add σ) writer

/-- Executes the batch. -/
def flush (store : σ) (writer : Writer β) : Except FlushFault Unit × σ × Writer β :=
  let run := RankedStore.execute store writer.batch
  let emptied := { writer with batch := run.2.2, pending := 0 }
  match run.1 with
  | .error fault => (.error fault, run.2.1, emptied)
  | .ok _ =>
      (.ok (), run.2.1,
        { emptied with pairsWritten := writer.pairsWritten + writer.pending,
                       batchesFlushed := writer.batchesFlushed + 1 })

/-- Enough pairs are queued for a flush. -/
def isFull (writer : Writer β) : Bool := decide (writer.batchSize ≤ writer.pending)

/-- Flushes if enough pairs are queued; the answer tells whether it did. -/
def flushIfNeeded (store : σ) (writer : Writer β) : Except FlushFault Bool × σ × Writer β :=
  if writer.isFull then
    let run := writer.flush store
    (run.1.map fun _ => true, run.2)
  else (.ok false, store, writer)

/-- Flushes if anything is queued; the answer tells whether it did. -/
def flushRemaining (store : σ) (writer : Writer β) : Except FlushFault Bool × σ × Writer β :=
  if writer.pending = 0 then (.ok false, store, writer)
  else
    let run := writer.flush store
    (run.1.map fun _ => true, run.2)

variable (σ) in
/-- Drops what is queued. -/
def close (writer : Writer β) : Writer β :=
  { writer with batch := RankedStore.discard σ writer.batch, pending := 0 }

end Writer

end Typeahead.Index
