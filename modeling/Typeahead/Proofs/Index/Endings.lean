import Typeahead.Proofs.Index.Queue
import Typeahead.Proofs.Index.Trace

/-!
# How a build ends

A build ends with what was raised: the failure of its feed, the fault of the
first flush that failed, or nothing (`ending_buildIndex`).  What a store tells
about the flushes that were tried on it is kept apart (`FlushRecord`), so that
this holds for stores that never fail and for stores on a fault plan.
-/

namespace Typeahead.Index

open Typeahead.Catalog Typeahead.Store

set_option autoImplicit false

/-- What can be told from a store about the flushes that were tried on it. -/
structure FlushRecord (σ : Type) {β : Type} [RankedStore σ β] where
  /-- no flush has failed -/
  clean : σ → Prop
  /-- the last flush has failed, and it was the first to do so -/
  broken : FlushFault → σ → Prop
  clean_execute : ∀ {store : σ} (batch : β) {count : Nat}, clean store →
    (RankedStore.execute store batch).1 = .ok count → clean (RankedStore.execute store batch).2.1
  broken_execute : ∀ {store : σ} (batch : β) {fault : FlushFault}, clean store →
    (RankedStore.execute store batch).1 = .error fault →
      broken fault (RankedStore.execute store batch).2.1

namespace FlushRecord

variable {σ β : Type} [RankedStore σ β] (record : FlushRecord σ)

theorem clean_flush {store : σ} {writer : Writer β} (clean : record.clean store)
    (succeeded : (writer.flush store).1 = .ok ()) : record.clean (writer.flush store).2.1 := by
  obtain ⟨count, executed⟩ := Writer.exists_executed succeeded
  rw [Writer.store_flush]
  exact record.clean_execute writer.batch clean executed

theorem broken_flush {store : σ} {writer : Writer β} {fault : FlushFault}
    (clean : record.clean store) (failed : (writer.flush store).1 = .error fault) :
    record.broken fault (writer.flush store).2.1 := by
  rw [Writer.store_flush]
  exact record.broken_execute writer.batch clean (Writer.executed_eq_error failed)

/-- An ending is what was raised, if anything was. -/
def Explains (failure : Option SourceFault) (store : σ) : Ending → Prop
  | .built _ => failure = none ∧ record.clean store
  | .failed fault =>
      (∃ cause, fault = .source cause ∧ failure = some cause ∧ record.clean store) ∨
        ∃ cause, fault = .flush cause ∧ record.broken cause store

section Explained

variable {record} {failure : Option SourceFault} {store : σ} {ending : Ending}

/-- A build whose feed is whole succeeds unless a flush failed. -/
theorem Explains.exists_built (explained : record.Explains failure store ending)
    (whole : failure = none) (unbroken : ∀ fault, ¬ record.broken fault store) :
    ∃ counters, ending = .built counters := by
  cases ending with
  | built counters => exact ⟨counters, rfl⟩
  | failed fault =>
      rcases explained with ⟨cause, _, fails, _⟩ | ⟨cause, _, broken⟩
      · rw [whole] at fails
        cases fails
      · exact (unbroken cause broken).elim

/-- A build whose feed fails ends with that failure unless a flush failed. -/
theorem Explains.eq_source (explained : record.Explains failure store ending)
    {cause : SourceFault} (fails : failure = some cause)
    (unbroken : ∀ fault, ¬ record.broken fault store) : ending = .failed (.source cause) := by
  cases ending with
  | built counters =>
      have whole := explained.1
      rw [fails] at whole
      cases whole
  | failed fault =>
      rcases explained with ⟨other, rfl, same, _⟩ | ⟨other, _, broken⟩
      · rw [fails] at same
        cases same
        rfl
      · exact (unbroken other broken).elim

/-- A build during which a flush failed ends with the fault of that flush. -/
theorem Explains.exists_flush (explained : record.Explains failure store ending)
    (unclean : ¬ record.clean store) :
    ∃ fault, ending = .failed (.flush fault) ∧ record.broken fault store := by
  cases ending with
  | built counters => exact (unclean explained.2).elim
  | failed fault =>
      rcases explained with ⟨_, _, _, clean⟩ | ⟨cause, rfl, broken⟩
      · exact (unclean clean).elim
      · exact ⟨cause, rfl, broken⟩

end Explained

/-- A stage fits what has been raised so far. -/
def Allows (failure : Option SourceFault) (store : σ) : Stage → Prop
  | .reading => record.clean store
  | .flushing => record.clean store
  | .flushingRest => failure = none ∧ record.clean store
  | .closing _ fault => ∃ cause, fault = .flush cause ∧ record.broken cause store
  | .finished ending => record.Explains failure store ending

end FlushRecord

namespace Build

variable {σ β : Type} [RankedStore σ β]

/-- A build that has the failure of its feed before it stands in a stage that fits what has been
raised. -/
structure Accounts (record : FlushRecord σ) (failure : Option SourceFault) (store : σ)
    (build : Build β) : Prop where
  failure_eq : build.failure = failure
  allows : record.Allows failure store build.stage

variable {record : FlushRecord σ} {failure : Option SourceFault} {store : σ} {build : Build β}

theorem Accounts.breakOff {cause : FlushFault} (failure_eq : build.failure = failure)
    (broken : record.broken cause store) :
    Accounts record failure store (build.breakOff σ (.flush cause)) := by
  cases closing : build.closing with
  | zero =>
      simp only [Build.breakOff, closing]
      exact ⟨failure_eq, .inr ⟨cause, rfl, broken⟩⟩
  | succ steps =>
      simp only [Build.breakOff, closing]
      exact ⟨failure_eq, cause, rfl, broken⟩

/-- **Every move of a build fits what has been raised.** -/
theorem Accounts.move {after : σ} {next : Build β} (accounts : Accounts record failure store build)
    (move : Move store build after next) : Accounts record failure after next := by
  obtain ⟨failure_eq, allows⟩ := accounts
  cases move with
  | pause stage _ => exact ⟨failure_eq, allows⟩
  | skip stage _ _ => exact ⟨failure_eq, allows⟩
  | ignore stage _ _ _ => exact ⟨failure_eq, allows⟩
  | queue stage _ _ _ =>
      rw [stage] at allows
      refine ⟨failure_eq, ?_⟩
      dsimp only
      split
      · exact allows
      · exact allows
  | endFeed stage _ whole =>
      rw [stage] at allows
      exact ⟨failure_eq, failure_eq.symm.trans whole, allows⟩
  | failFeed stage _ fails =>
      rw [stage] at allows
      exact ⟨failure_eq, .inl ⟨_, rfl, failure_eq.symm.trans fails, allows⟩⟩
  | flush stage succeeded =>
      rw [stage] at allows
      exact ⟨failure_eq, record.clean_flush allows succeeded⟩
  | failFlush stage failed =>
      rw [stage] at allows
      exact .breakOff failure_eq (record.broken_flush allows failed)
  | endEmpty stage _ =>
      rw [stage] at allows
      exact ⟨failure_eq, allows⟩
  | flushRest stage _ succeeded =>
      rw [stage] at allows
      exact ⟨failure_eq, allows.1, record.clean_flush allows.2 succeeded⟩
  | failRest stage _ failed =>
      rw [stage] at allows
      exact ⟨failure_eq, .inr ⟨_, rfl, record.broken_flush allows.2 failed⟩⟩
  | close stage =>
      rw [stage] at allows
      exact ⟨failure_eq, allows⟩
  | closed stage =>
      rw [stage] at allows
      exact ⟨failure_eq, .inr allows⟩
  | rest stage => exact ⟨failure_eq, allows⟩

end Build

/-- **A build ends with what was raised.** -/
theorem ending_buildIndex {σ β : Type} [RankedStore σ β]
    (record : FlushRecord σ) (enumeration : Enumeration) {store : σ} {batchSize : Int}
    (positive : 1 ≤ batchSize) (feed : Feed) (clean : record.clean store) :
    record.Explains feed.failure (buildIndex enumeration store batchSize feed).store
      (buildIndex enumeration store batchSize feed).ending := by
  obtain ⟨writer, opened⟩ := Writer.exists_opened store positive
  obtain ⟨build, stage, accounts⟩ := buildIndex_induction
    (motive := fun _ current build => Build.Accounts record feed.failure current build)
    opened ⟨rfl, clean⟩ fun _ store build accounts => accounts.move (Build.move_step store build)
  have allowed := accounts.allows
  rw [stage] at allowed
  exact allowed

/-- A store in memory carries out every flush. -/
def memoryRecord : FlushRecord MemoryStore where
  clean _ := True
  broken _ _ := False
  clean_execute _ _ _ _ := trivial
  broken_execute _ _ _ failed := by cases failed

/-! ## Stores on a fault plan -/

/-- An execution between two states of a store was refused by the plan. -/
def RefusedSince (initial store : Faulty MemoryStore) : Prop :=
  ∃ number : Nat, initial.executed < number ∧ number ≤ store.executed ∧
    (number : Int) ∈ initial.plan.executions

/-- A store on a fault plan has been refused a flush since its initial state, or it has not. -/
def planRecord (initial : Faulty MemoryStore) : FlushRecord (Faulty MemoryStore) where
  clean store :=
    store.plan = initial.plan ∧ initial.executed ≤ store.executed ∧ ¬ RefusedSince initial store
  broken fault store :=
    fault = .refused initial.plan.refusal ∧ RefusedSince initial store
  clean_execute := by
    rintro store batch count ⟨plan, later, unrefused⟩ succeeded
    by_cases refused : store.RefusesNext
    · rw [Faulty.execute_of_refused refused] at succeeded
      cases succeeded
    · rw [Faulty.execute_of_not_refused refused]
      refine ⟨plan, Nat.le_succ_of_le later, ?_⟩
      rintro ⟨number, since, upTo, listed⟩
      rcases Nat.lt_or_eq_of_le upTo with before | rfl
      · exact unrefused ⟨number, since, Nat.le_of_lt_succ before, listed⟩
      · rw [Faulty.RefusesNext, plan] at refused
        exact refused listed
  broken_execute := by
    rintro store batch fault ⟨plan, later, unrefused⟩ failed
    by_cases refused : store.RefusesNext
    · rw [Faulty.execute_of_refused refused] at failed ⊢
      cases failed
      rw [Faulty.RefusesNext, plan] at refused
      exact ⟨by rw [plan], store.executed + 1, Nat.lt_succ_of_le later, Nat.le_refl _, refused⟩
    · rw [Faulty.execute_of_not_refused refused] at failed
      cases failed

theorem clean_planRecord (store : Faulty MemoryStore) : (planRecord store).clean store := by
  refine ⟨rfl, Nat.le_refl _, ?_⟩
  rintro ⟨number, since, upTo, _⟩
  omega

end Typeahead.Index
