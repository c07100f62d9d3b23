import Mathlib.Data.List.Flatten
import Typeahead.Proofs.Index.Queue

/-!
# The books of a writer

The owner of a writer queues pairs, has them flushed, closes the writer, and leaves the block that
it was opened for.  From what was done and what the writer answered, the owner can keep books
(`Ledger`): the pairs that wait, and what became of those that were queued together before.  They
were written by a flush that succeeded, dropped by a flush that failed, or discarded when the writer
was closed.

The counters of the writer agree with these books after every deed, whatever becomes of the flushes
and whatever others do to the store in between (`Balanced.turns`).  On a store in memory that nobody
else writes to, the written pairs are what the writer has put into it, once each and in the order in
which they were queued (`counters_agree_with_books`).
-/

namespace Typeahead.Index

open Typeahead.Store

set_option autoImplicit false

/-! ## Deeds -/

/-- What the owner of a writer does with it. -/
inductive Deed where
  | add (pair : Pair)
  | flushIfNeeded
  | flushRemaining
  | close
  /-- the block that the writer was opened for is left, by an exception or without one -/
  | leave
  deriving DecidableEq, Repr, Inhabited

/-- What comes next on a store with a writer. -/
structure WriterTurn (σ : Type) where
  /-- what others do to the store first -/
  others : σ → σ
  deed : Deed

/-- A deed behind which nobody else has touched the store. -/
def WriterTurn.alone {σ : Type} (deed : Deed) : WriterTurn σ := ⟨id, deed⟩

/-- The pairs that are queued in turns, in order. -/
def pairsAdded {σ : Type} (turns : List (WriterTurn σ)) : List Pair :=
  turns.filterMap fun turn =>
    match turn.deed with
    | .add pair => some pair
    | _ => none

namespace Writer

variable {σ β : Type} [RankedStore σ β]

/-- Does a deed.  The answer tells whether a batch was flushed; leaving the block closes the
writer. -/
def perform (store : σ) (writer : Writer β) : Deed → Except FlushFault Bool × σ × Writer β
  | .add pair => (.ok false, store, writer.add σ pair)
  | .flushIfNeeded => writer.flushIfNeeded store
  | .flushRemaining => writer.flushRemaining store
  | .close => (.ok false, store, writer.close σ)
  | .leave => (.ok false, store, writer.close σ)

/-- What a deed that can flush a batch comes to. -/
inductive Attempt (store : σ) (writer : Writer β) :
    Except FlushFault Bool × σ × Writer β → Prop where
  /-- no flush is due -/
  | none : Attempt store writer (.ok false, store, writer)
  | landed (some : writer.pending ≠ 0) (succeeded : (writer.flush store).1 = .ok ()) :
      Attempt store writer (.ok true, (writer.flush store).2)
  | lost {fault : FlushFault} (failed : (writer.flush store).1 = .error fault) :
      Attempt store writer (.error fault, (writer.flush store).2)

theorem attempt_flush (store : σ) {writer : Writer β} (some : writer.pending ≠ 0) :
    Attempt store writer
      (((writer.flush store).1.map fun _ => true), (writer.flush store).2) := by
  cases flushed : (writer.flush store).1 with
  | ok _ => exact .landed some flushed
  | error fault => exact .lost flushed

theorem attempt_flushIfNeeded (store : σ) (writer : Writer β) :
    Attempt store writer (writer.flushIfNeeded store) := by
  cases full : writer.isFull with
  | false =>
      simp only [flushIfNeeded, full, Bool.false_eq_true, if_false]
      exact .none
  | true =>
      have reached : writer.batchSize ≤ writer.pending := of_decide_eq_true full
      have positive := writer.batchSize_pos
      simp only [flushIfNeeded, full, if_true]
      exact attempt_flush store (by omega)

theorem attempt_flushRemaining (store : σ) (writer : Writer β) :
    Attempt store writer (writer.flushRemaining store) := by
  by_cases empty : writer.pending = 0
  · simp only [flushRemaining, if_pos empty]
    exact .none
  · simp only [flushRemaining, if_neg empty]
    exact attempt_flush store empty

end Writer

/-! ## Books -/

/-- What became of pairs that were queued together. -/
inductive Fate where
  /-- a flush succeeded -/
  | written
  /-- a flush failed -/
  | dropped
  /-- the writer was closed -/
  | discarded
  deriving DecidableEq, Repr, Inhabited

/-- What the owner of a writer knows about the pairs that were queued. -/
structure Ledger where
  /-- what became of earlier pairs, those that were queued together in one entry -/
  settled : List (Fate × List Pair) := []
  /-- the pairs that are queued -/
  waiting : List Pair := []
  deriving DecidableEq, Repr, Inhabited

namespace Ledger

/-- The queued pairs meet a fate. -/
def settle (ledger : Ledger) (fate : Fate) : Ledger :=
  ⟨ledger.settled ++ [(fate, ledger.waiting)], []⟩

/-- Enters the answer of a deed that can flush a batch. -/
def enterFlush (ledger : Ledger) : Except FlushFault Bool → Ledger
  | .ok true => ledger.settle .written
  | .ok false => ledger
  | .error _ => ledger.settle .dropped

/-- Enters a deed with its answer. -/
def enter (ledger : Ledger) (answer : Except FlushFault Bool) : Deed → Ledger
  | .add pair => { ledger with waiting := ledger.waiting ++ [pair] }
  | .flushIfNeeded => ledger.enterFlush answer
  | .flushRemaining => ledger.enterFlush answer
  | .close => ledger.settle .discarded
  | .leave => ledger.settle .discarded

/-- The entries of a fate. -/
def entries (ledger : Ledger) (fate : Fate) : List (Fate × List Pair) :=
  ledger.settled.filter fun entry => entry.1 = fate

/-- The batches that met a fate. -/
def batches (ledger : Ledger) (fate : Fate) : List (List Pair) :=
  (ledger.entries fate).map Prod.snd

/-- The pairs that met a fate, in order. -/
def pairs (ledger : Ledger) (fate : Fate) : List Pair :=
  (ledger.entries fate).flatMap Prod.snd

/-- All pairs that were queued, in order. -/
def all (ledger : Ledger) : List Pair :=
  ledger.settled.flatMap Prod.snd ++ ledger.waiting

theorem entries_settle_self (ledger : Ledger) (fate : Fate) :
    (ledger.settle fate).entries fate = ledger.entries fate ++ [(fate, ledger.waiting)] := by
  simp [entries, settle]

theorem entries_settle_of_ne (ledger : Ledger) {fate other : Fate} (apart : fate ≠ other) :
    (ledger.settle fate).entries other = ledger.entries other := by
  simp [entries, settle, apart]

theorem pairs_settle_self (ledger : Ledger) (fate : Fate) :
    (ledger.settle fate).pairs fate = ledger.pairs fate ++ ledger.waiting := by
  rw [pairs, entries_settle_self, List.flatMap_append, List.flatMap_singleton]
  rfl

theorem pairs_settle_of_ne (ledger : Ledger) {fate other : Fate} (apart : fate ≠ other) :
    (ledger.settle fate).pairs other = ledger.pairs other := by
  rw [pairs, entries_settle_of_ne ledger apart]
  rfl

@[simp] theorem all_settle (ledger : Ledger) (fate : Fate) :
    (ledger.settle fate).all = ledger.all := by
  simp [all, settle]

/-- **Every pair that was queued waits or has met one of the three fates.** -/
theorem length_all (ledger : Ledger) :
    ledger.all.length = (ledger.pairs .written).length + ledger.waiting.length +
      (ledger.pairs .discarded).length + (ledger.pairs .dropped).length := by
  obtain ⟨settled, waiting⟩ := ledger
  induction settled with
  | nil => simp [all, pairs, entries]
  | cons entry settled inductionHypothesis =>
      obtain ⟨fate, batch⟩ := entry
      simp only [all, pairs, entries, List.flatMap_cons, List.length_append, List.filter_cons,
        decide_eq_true_eq] at inductionHypothesis ⊢
      cases fate with
      | written =>
          simp only [if_true, reduceCtorEq, if_false, List.flatMap_cons, List.length_append]
          omega
      | dropped =>
          simp only [if_true, reduceCtorEq, if_false, List.flatMap_cons, List.length_append]
          omega
      | discarded =>
          simp only [if_true, reduceCtorEq, if_false, List.flatMap_cons, List.length_append]
          omega

/-- The pairs that met a fate are in the order in which they were queued. -/
theorem pairs_sublist_all (ledger : Ledger) (fate : Fate) :
    (ledger.pairs fate).Sublist ledger.all := by
  have settled : (ledger.pairs fate).Sublist (ledger.settled.flatMap Prod.snd) :=
    List.filter_sublist.flatMap Prod.snd
  exact settled.trans (List.sublist_append_left _ _)

end Ledger

/-! ## Counters and books -/

/-- A writer on its store, with the books that its owner keeps. -/
structure Books (σ β : Type) where
  store : σ
  writer : Writer β
  ledger : Ledger := {}

namespace Books

variable {σ β : Type} [RankedStore σ β]

/-- Takes a turn and enters it. -/
def turn (books : Books σ β) (turn : WriterTurn σ) : Books σ β :=
  let run := books.writer.perform (turn.others books.store) turn.deed
  { store := run.2.1, writer := run.2.2, ledger := books.ledger.enter run.1 turn.deed }

/-- Takes turns in order. -/
def turns (books : Books σ β) (list : List (WriterTurn σ)) : Books σ β :=
  list.foldl turn books

end Books

section Balance

variable {σ β : Type} [RankedStore σ β] [Queueing σ]

variable (σ) in
/-- The counters of a writer agree with books in which the given pairs have been queued. -/
structure Balanced (added : List Pair) (writer : Writer β) (ledger : Ledger) : Prop where
  queues : writer.Queues σ ledger.waiting
  all_eq : ledger.all = added
  written_eq : writer.pairsWritten = (ledger.pairs .written).length
  flushed_eq : writer.batchesFlushed = (ledger.batches .written).length
  nonempty : ∀ batch ∈ ledger.batches .written, batch ≠ []

namespace Balanced

variable {added : List Pair} {writer : Writer β} {ledger : Ledger}

theorem add (balanced : Balanced σ added writer ledger) (pair : Pair) :
    Balanced σ (added ++ [pair]) (writer.add σ pair)
      { ledger with waiting := ledger.waiting ++ [pair] } where
  queues := balanced.queues.add pair
  all_eq := by
    rw [← balanced.all_eq, Ledger.all, Ledger.all, List.append_assoc]
  written_eq := balanced.written_eq
  flushed_eq := balanced.flushed_eq
  nonempty := balanced.nonempty

/-- The queue meets a fate that does not count as written. -/
theorem lose (balanced : Balanced σ added writer ledger) {next : Writer β} {fate : Fate}
    (queues : next.Queues σ []) (lost : fate ≠ .written)
    (written : next.pairsWritten = writer.pairsWritten)
    (flushed : next.batchesFlushed = writer.batchesFlushed) :
    Balanced σ added next (ledger.settle fate) := by
  have same := ledger.entries_settle_of_ne lost
  exact {
    queues
    all_eq := (ledger.all_settle fate).trans balanced.all_eq
    written_eq := by rw [written, ledger.pairs_settle_of_ne lost]; exact balanced.written_eq
    flushed_eq := by rw [flushed, Ledger.batches, same]; exact balanced.flushed_eq
    nonempty := by rw [Ledger.batches, same]; exact balanced.nonempty }

theorem close (balanced : Balanced σ added writer ledger) :
    Balanced σ added (writer.close σ) (ledger.settle .discarded) :=
  balanced.lose (Writer.queues_close σ writer) nofun rfl rfl

/-- The queue is written. -/
theorem land (balanced : Balanced σ added writer ledger) {store : σ}
    (some : writer.pending ≠ 0) (succeeded : (writer.flush store).1 = .ok ()) :
    Balanced σ added (writer.flush store).2.2 (ledger.settle .written) := by
  obtain ⟨written, flushed⟩ := Writer.counts_flush_of_ok succeeded
  have waiting : ledger.waiting ≠ [] := mt balanced.queues.isEmpty_iff.mpr some
  have entries := ledger.entries_settle_self .written
  exact {
    queues := balanced.queues.flush store
    all_eq := (ledger.all_settle .written).trans balanced.all_eq
    written_eq := by
      rw [written, balanced.written_eq, balanced.queues.pending_eq, ledger.pairs_settle_self,
        List.length_append]
    flushed_eq := by
      rw [flushed, balanced.flushed_eq, Ledger.batches, Ledger.batches, entries,
        List.map_append, List.length_append]
      rfl
    nonempty := by
      rw [Ledger.batches, entries, List.map_append, List.forall_mem_append]
      exact ⟨balanced.nonempty, List.forall_mem_singleton.mpr waiting⟩ }

/-- Whatever becomes of a flush, it is entered as it should. -/
theorem attempt (balanced : Balanced σ added writer ledger) {store : σ}
    {run : Except FlushFault Bool × σ × Writer β} (attempt : writer.Attempt store run) :
    Balanced σ added run.2.2 (ledger.enterFlush run.1) := by
  cases attempt with
  | none => exact balanced
  | landed some succeeded => exact balanced.land some succeeded
  | lost failed =>
      obtain ⟨written, flushed⟩ := Writer.counts_flush_of_error failed
      exact balanced.lose (balanced.queues.flush store) nofun written flushed

/-- **Every deed keeps counters and books in agreement**, whatever the store does. -/
theorem turn {books : Books σ β} (balanced : Balanced σ added books.writer books.ledger)
    (turn : WriterTurn σ) :
    Balanced σ (added ++ pairsAdded [turn]) (books.turn turn).writer (books.turn turn).ledger := by
  obtain ⟨others, deed⟩ := turn
  have nothing : added ++ [] = added := List.append_nil added
  cases deed with
  | add pair => exact balanced.add pair
  | flushIfNeeded =>
      exact nothing.symm ▸ balanced.attempt (Writer.attempt_flushIfNeeded _ books.writer)
  | flushRemaining =>
      exact nothing.symm ▸ balanced.attempt (Writer.attempt_flushRemaining _ books.writer)
  | close => exact nothing.symm ▸ balanced.close
  | leave => exact nothing.symm ▸ balanced.close

/-- **Counters and books agree after any deeds.** -/
theorem turns {books : Books σ β} (balanced : Balanced σ added books.writer books.ledger)
    (list : List (WriterTurn σ)) :
    Balanced σ (added ++ pairsAdded list) (books.turns list).writer (books.turns list).ledger := by
  induction list generalizing books added with
  | nil => exact (List.append_nil added).symm ▸ balanced
  | cons first list inductionHypothesis =>
      have step := inductionHypothesis (balanced.turn first)
      rw [List.append_assoc, pairsAdded, pairsAdded, ← List.filterMap_append] at step
      exact step

end Balanced

end Balance

/-! ## What is written -/

section Written

variable {σ β : Type} [RankedStore σ β] [MemoryBacked σ] {initial : MemoryStore} {store : σ}
  {writer : Writer β} {ledger : Ledger}

variable (initial store ledger) in
/-- The store holds what it held at first and the pairs that are written in the books. -/
def HoldsWritten : Prop :=
  MemoryBacked.content store = initial.addPairs (ledger.pairs .written)

theorem HoldsWritten.attempt (written : HoldsWritten initial store ledger)
    (queues : writer.Queues σ ledger.waiting) {run : Except FlushFault Bool × σ × Writer β}
    (attempt : writer.Attempt store run) :
    HoldsWritten initial run.2.1 (ledger.enterFlush run.1) := by
  cases attempt with
  | none => exact written
  | landed some succeeded =>
      have landed := queues.content_flush_of_ok succeeded
      change _ = initial.addPairs ((ledger.settle .written).pairs .written)
      rw [landed, written, ledger.pairs_settle_self, MemoryStore.addPairs_append]
  | lost failed =>
      have kept := Writer.content_flush_of_error failed
      have lost : Fate.dropped ≠ .written := by decide
      change _ = initial.addPairs ((ledger.settle .dropped).pairs .written)
      rw [kept, written, ledger.pairs_settle_of_ne lost]

/-- **A deed writes to the store what it enters as written.** -/
theorem HoldsWritten.turn {books : Books σ β} {added : List Pair}
    (written : HoldsWritten initial books.store books.ledger)
    (balanced : Balanced σ added books.writer books.ledger) (deed : Deed) :
    HoldsWritten initial (books.turn (.alone deed)).store (books.turn (.alone deed)).ledger := by
  have lost : Fate.discarded ≠ .written := by decide
  have discarded : HoldsWritten initial books.store (books.ledger.settle .discarded) :=
    written.trans (congrArg _ (books.ledger.pairs_settle_of_ne lost).symm)
  cases deed with
  | add pair => exact written
  | flushIfNeeded =>
      exact written.attempt balanced.queues (Writer.attempt_flushIfNeeded _ books.writer)
  | flushRemaining =>
      exact written.attempt balanced.queues (Writer.attempt_flushRemaining _ books.writer)
  | close => exact discarded
  | leave => exact discarded

theorem HoldsWritten.turns {books : Books σ β} {added : List Pair}
    (written : HoldsWritten initial books.store books.ledger)
    (balanced : Balanced σ added books.writer books.ledger) (deeds : List Deed) :
    HoldsWritten initial (books.turns (deeds.map .alone)).store
      (books.turns (deeds.map .alone)).ledger := by
  induction deeds generalizing books added with
  | nil => exact written
  | cons deed deeds inductionHypothesis =>
      exact inductionHypothesis (written.turn balanced deed) (balanced.turn (.alone deed))

end Written

/-! ## All together -/

section Accounts

variable {σ β : Type} [RankedStore σ β]

/-- The counters of a writer account for all pairs that have been queued: every pair has been
written, waits, or has been discarded or dropped; and a batch that was flushed was not empty. -/
structure Accounted (added : List Pair) (books : Books σ β) : Prop where
  pending_eq : books.writer.pending = RankedStore.queued σ books.writer.batch
  added_eq : added.length = books.writer.pairsWritten + books.writer.pending +
    (books.ledger.pairs .discarded).length + (books.ledger.pairs .dropped).length
  flushed_eq : books.writer.batchesFlushed = (books.ledger.batches .written).length
  nonempty : ∀ batch ∈ books.ledger.batches .written, batch ≠ []

variable [Queueing σ]

theorem Balanced.accounted [CountsQueues σ] {added : List Pair} {books : Books σ β}
    (balanced : Balanced σ added books.writer books.ledger) : Accounted added books where
  pending_eq := balanced.queues.queued_eq.symm
  added_eq := by
    rw [← balanced.all_eq, Ledger.length_all, balanced.written_eq, balanced.queues.pending_eq]
  flushed_eq := balanced.flushed_eq
  nonempty := balanced.nonempty

/-- The books of a writer that has just been opened are empty, and agree with it. -/
theorem exists_balanced_open? (store : σ) {batchSize : Int} (positive : 1 ≤ batchSize) :
    ∃ writer : Writer β, Writer.open? store batchSize = .ok writer ∧
      Balanced σ [] writer {} := by
  obtain ⟨writer, opened, empty⟩ := Writer.exists_open?_eq store positive
  obtain ⟨_, written, flushed⟩ := Writer.counts_of_open? opened
  exact ⟨writer, opened, empty, rfl, written, flushed, nofun⟩

end Accounts

/-- **The counters of a writer agree with the books that its owner keeps**, over a store in memory
that refuses any flushes and over a server that others change and that goes away at any moment.
After any deeds the writer has as many pairs pending as its batch holds, and every pair that was
queued has been written, is pending, has been discarded by closing the writer or dropped with a
flush that failed.  The batches that were flushed are counted, and none of them was empty.  A store
in memory holds what it held at first, with the written pairs put in once each and in the order in
which they were queued: the name of a written pair has the score zero under its key, every other
score is what it was, and a key has come in exactly if a written pair has it. -/
theorem counters_agree_with_books {batchSize : Int} (positive : 1 ≤ batchSize) :
    (∀ (store : Faulty MemoryStore) (deeds : List Deed), ∃ writer,
      Writer.open? store batchSize = .ok writer ∧
      let turns := deeds.map WriterTurn.alone
      let books := Books.turns { store, writer } turns
      let written := books.ledger.pairs .written
      Accounted (pairsAdded turns) books ∧
        books.store.base = store.base.addPairs written ∧
        (∀ key name, books.store.base.score? key name =
          if ⟨key, name⟩ ∈ written then some 0 else store.base.score? key name) ∧
        (∀ key : String, books.store.base.sets[key]? = none ↔
          store.base.sets[key]? = none ∧ ∀ pair ∈ written, pair.key ≠ key) ∧
        written.length = books.writer.pairsWritten ∧ written.Sublist (pairsAdded turns)) ∧
    ∀ (server : ServerStore) (turns : List (WriterTurn ServerStore)), ∃ writer,
      Writer.open? server batchSize = .ok writer ∧
      let books := Books.turns { store := server, writer } turns
      Accounted (pairsAdded turns) books ∧
        books.writer.batch.count = books.writer.pending := by
  constructor
  · intro store deeds
    obtain ⟨writer, opened, balanced⟩ := exists_balanced_open? store positive
    refine ⟨writer, opened, ?_⟩
    intro turns books written
    let first : Books (Faulty MemoryStore) _ := { store, writer }
    have begins : Balanced (Faulty MemoryStore) [] first.writer first.ledger := balanced
    have start : HoldsWritten store.base first.store first.ledger := rfl
    have agree : Balanced (Faulty MemoryStore) (pairsAdded turns) books.writer books.ledger :=
      begins.turns turns
    have holds : HoldsWritten store.base books.store books.ledger := start.turns begins deeds
    have content : books.store.base = store.base.addPairs written := holds
    refine ⟨agree.accounted, holds, fun key name => ?_, fun key => ?_, agree.written_eq.symm, ?_⟩
    · rw [content]
      exact store.base.score?_addPairs written key name
    · rw [content]
      exact store.base.sets_addPairs_eq_none_iff written key
    · rw [← agree.all_eq]
      exact books.ledger.pairs_sublist_all .written
  · intro server turns
    obtain ⟨writer, opened, balanced⟩ := exists_balanced_open? server positive
    refine ⟨writer, opened, ?_⟩
    intro books
    let first : Books ServerStore _ := { store := server, writer }
    have begins : Balanced ServerStore [] first.writer first.ledger := balanced
    have agree : Balanced ServerStore (pairsAdded turns) books.writer books.ledger :=
      begins.turns turns
    refine ⟨agree.accounted, ?_⟩
    have filled : books.writer.batch = .filled (books.ledger.waiting.map Writer.addition) :=
      agree.queues.holds
    rw [filled, ServerBatch.filled_eq, agree.queues.pending_eq]
    exact List.length_map _

/-- Two pairs that are flushed, a third one that is flushed by itself, a fourth one that is queued
when the block is left, and a fifth one. -/
def fivePairs : List Deed :=
  [.add ⟨"red", "redis"⟩, .add ⟨"redi", "redis"⟩, .flushIfNeeded, .add ⟨"red", "redux"⟩,
    .flushRemaining, .add ⟨"redu", "redux"⟩, .leave, .add ⟨"rea", "react"⟩]

/-- The second flush is refused. -/
theorem counters_agree_with_books_of_fivePairs :
    let store : Faulty MemoryStore := { base := .empty, plan := { executions := [2] } }
    1 ≤ (2 : Int) ∧ ∃ writer, Writer.open? store 2 = .ok writer ∧
      let books := Books.turns { store, writer } (fivePairs.map .alone)
      books.writer.pending = 1 ∧ books.writer.pairsWritten = 2 ∧
        books.writer.batchesFlushed = 1 ∧
        books.ledger.pairs .discarded = [⟨"redu", "redux"⟩] ∧
        books.ledger.pairs .dropped = [⟨"red", "redux"⟩] ∧
        books.store.base = MemoryStore.empty.addPairs [⟨"red", "redis"⟩, ⟨"redi", "redis"⟩] ∧
        books.store.base.score? "red" "redis" = some 0 ∧
        books.store.base.score? "redi" "redis" = some 0 ∧
        books.store.base.score? "red" "redux" = none ∧
        books.store.base.sets["redu"]? = none := by
  intro store
  obtain ⟨writer, opened, accounted, base, scores, absent, _⟩ :=
    (counters_agree_with_books (by decide : 1 ≤ (2 : Int))).1 store fivePairs
  refine ⟨by decide, writer, opened, ?_⟩
  cases opened
  exact ⟨accounted.pending_eq, rfl, accounted.flushed_eq, rfl, rfl, base, scores "red" "redis",
    scores "redi" "redis", scores "red" "redux",
    (absent "redu").mpr ⟨by simp [store, MemoryStore.empty], by decide⟩⟩

end Typeahead.Index
