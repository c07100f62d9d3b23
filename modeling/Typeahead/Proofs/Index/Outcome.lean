import Typeahead.Proofs.Index.Endings
import Typeahead.Proofs.Index.Progress
import Typeahead.Proofs.Index.Suggestions

/-!
# What a build leaves in the store

A build whose feed does not fail puts every name of the feed under all of its
keys and adds nothing else, and lookups on the store that it leaves suggest the
members of a key in ascending order.

A build on a store that fails on a plan leaves exactly the names that had been
taken at its last flush, each of them under all of its keys, and ends with the
failure that occurred first.
-/

namespace Typeahead.Index

open Typeahead.Catalog Typeahead.Store

set_option autoImplicit false

/-- A feed of three names, the second of which has no keys. -/
def threeNames : Feed :=
  { signals := signalsOfLines
      ["\x7b\"rows\":[".toList, "\x7b\"id\":\"redis\"\x7d,".toList,
        "\x7b\"id\":\"abc\"\x7d,".toList, "\x7b\"id\":\"redux\"\x7d".toList, "]\x7d".toList] }

theorem names_threeNames : threeNames.names = ["redis", "abc", "redux"] := by decide +kernel

/-- **A build whose feed does not fail succeeds and indexes exactly the names of the feed.**  A
member of a key was there before or is a name with this key; an absent key with no such name stays
absent.  A lookup suggests the first members of its key in the strict order of their characters. -/
theorem buildIndex_puts_names_under_keys (enumeration : Enumeration) (store : MemoryStore)
    {batchSize : Int} (positive : 1 ≤ batchSize) (feed : Feed) (whole : feed.failure = none)
    (zeros : ∀ key name score, store.score? key name = some score → score = 0) :
    let result := buildIndex enumeration store batchSize feed
    (∃ counters, result.ending = .built counters) ∧
      ∀ key : String,
        (∀ name, result.store.Holds key name ↔
          store.Holds key name ∨ name ∈ feed.names ∧ IsKey key name) ∧
        (result.store.sets[key]? = none ↔
          store.sets[key]? = none ∧ ∀ name ∈ feed.names, ¬ IsKey key name) ∧
        ∃ ordered : List String,
          ordered.Pairwise (· < ·) ∧ (∀ name, name ∈ ordered ↔ result.store.Holds key name) ∧
            ∀ lookup : Lookup, 1 ≤ lookup.limit →
              lookup.suggestions result.store key = .ok (ordered.take lookup.limit.toNat) := by
  intro result
  have built : ∃ counters, result.ending = .built counters := by
    have clean : memoryRecord.clean store := trivial
    have explained := ending_buildIndex memoryRecord enumeration positive feed clean
    exact explained.exists_built whole fun _ impossible => impossible
  have content : result.store = store.indexed feed.names := by
    obtain ⟨counters, ending⟩ := built
    exact (content_buildIndex enumeration store positive feed).2.2 counters ending
  refine ⟨built, fun key => ⟨fun name => ?_, ?_, membersOf result.store key, ?_, ?_, ?_⟩⟩
  · rw [content]
    exact store.holds_indexed_iff
  · rw [content]
    exact store.sets_indexed_eq_none_iff
  · apply pairwise_membersOf
    rw [content]
    intro other name score
    exact MemoryStore.score?_indexed_eq_zero zeros
  · exact fun name => mem_membersOf_iff
  · exact fun lookup positive => suggestions_eq lookup positive result.store key

/-- Two names come to a member that the key had before; a name of three characters has no key. -/
theorem buildIndex_puts_threeNames_under_keys :
    let store := MemoryStore.empty.indexed ["reduce"]
    let result := buildIndex .ascending store 2 threeNames
    1 ≤ (2 : Int) ∧ threeNames.failure = none ∧
      (∀ key name score, store.score? key name = some score → score = 0) ∧
      result.store.Holds "red" "reduce" ∧ result.store.Holds "red" "redis" ∧
      result.store.Holds "red" "redux" ∧ result.store.sets["abc"]? = none := by
  intro store result
  have zeros : ∀ key name score, store.score? key name = some score → score = 0 := by
    intro key name score
    apply MemoryStore.score?_indexed_eq_zero
    intro key name score found
    simp [MemoryStore.score?, MemoryStore.empty] at found
  obtain ⟨_, under⟩ := buildIndex_puts_names_under_keys .ascending store
    (by decide : 1 ≤ (2 : Int)) threeNames rfl zeros
  rw [names_threeNames] at under
  refine ⟨by decide, rfl, zeros, ?_, ?_, ?_, ?_⟩
  · refine ((under "red").1 "reduce").mpr (.inl ?_)
    exact MemoryStore.empty.holds_indexed_iff.mpr (.inr ⟨by decide, by decide⟩)
  · exact ((under "red").1 "redis").mpr (.inr ⟨by decide, by decide⟩)
  · exact ((under "red").1 "redux").mpr (.inr ⟨by decide, by decide⟩)
  · refine (under "abc").2.1.mpr ⟨?_, by decide⟩
    exact MemoryStore.empty.sets_indexed_eq_none_iff.mpr
      ⟨by simp [MemoryStore.empty], by decide⟩

/-- **A build leaves exactly the names that had been taken at its last flush.**  Each of them has the
score zero under each of its keys, every other score is what it was, and no other key has come in.
So of a later name there is nothing in the store, and a name whose scores have changed stands under
all of its keys.  The build ends with the refusal of a flush if there was one, else with the failure
of its feed if it has one, else it succeeds. -/
theorem buildIndex_leaves_flushed_names (enumeration : Enumeration) (store : Faulty MemoryStore)
    {batchSize : Int} (positive : 1 ≤ batchSize) (feed : Feed) :
    let flushed := (Build.flushPoints (buildStates enumeration store batchSize feed)).getLastD 0
    let result := buildIndex enumeration store batchSize feed
    flushed ≤ feed.names.length ∧
      result.store.base = store.base.indexed (feed.names.take flushed) ∧
      (∀ key name, result.store.base.Holds key name ↔
        store.base.Holds key name ∨ name ∈ feed.names.take flushed ∧ IsKey key name) ∧
      store.base.Gains (feed.names.take flushed) result.store.base ∧
      (∀ name, name ∉ feed.names.take flushed → ∀ key,
        result.store.base.score? key name = store.base.score? key name) ∧
      (∀ key name, result.store.base.score? key name ≠ store.base.score? key name →
        ∀ other, IsKey other name → result.store.base.score? other name = some 0) ∧
      (RefusedSince store result.store →
        result.ending = .failed (.flush (.refused store.plan.refusal))) ∧
      (¬ RefusedSince store result.store → ∀ cause, feed.failure = some cause →
        result.ending = .failed (.source cause)) ∧
      (¬ RefusedSince store result.store → feed.failure = none →
        ∃ counters, result.ending = .built counters) := by
  intro flushed result
  obtain ⟨inside, content, _⟩ := content_buildIndex enumeration store positive feed
  change result.store.base = store.base.indexed (feed.names.take flushed) at content
  have explained := ending_buildIndex (planRecord store) enumeration positive feed
    (clean_planRecord store)
  have gains : store.base.Gains (feed.names.take flushed) result.store.base :=
    MemoryStore.gains_iff.mpr content
  refine ⟨inside, content, fun key name => ?_, gains, ?_, ?_, ?_, ?_, ?_⟩
  · rw [content]
    exact store.base.holds_indexed_iff
  · exact fun name later key => gains.kept key name fun added => later added.1
  · intro key name changed other isKey
    have added : name ∈ feed.names.take flushed := by
      by_contra later
      exact changed (gains.kept key name fun added => later added.1)
    exact gains.added name added other isKey
  · intro refused
    obtain ⟨fault, ending, rfl, _⟩ := explained.exists_flush fun clean => clean.2.2 refused
    exact ending
  · intro unrefused cause fails
    exact explained.eq_source fails fun _ broken => unrefused broken.2
  · intro unrefused whole
    exact explained.exists_built whole fun _ broken => unrefused broken.2

/-- The second flush is refused, and the first one has come behind the first name: this name stands
under both of its keys, and the last one under none. -/
theorem buildIndex_leaves_first_of_threeNames :
    let store : Faulty MemoryStore := { base := .empty, plan := { executions := [2] } }
    let result := buildIndex .ascending store 2 threeNames
    1 ≤ (2 : Int) ∧ result.store.base = MemoryStore.empty.indexed ["redis"] ∧
      result.store.base.score? "red" "redis" = some 0 ∧
      result.store.base.score? "redi" "redis" = some 0 ∧
      (∀ key, ¬ result.store.base.Holds key "redux") ∧
      result.ending = .failed (.flush (.refused "pipeline rejected")) := by
  intro store result
  have flushed :
      (Build.flushPoints (buildStates .ascending store 2 threeNames)).getLastD 0 = 1 := by
    decide +kernel
  have executed : 2 ≤ result.store.executed := by decide +kernel
  obtain ⟨_, content, holds, gains, _, _, refused, _⟩ :=
    buildIndex_leaves_flushed_names .ascending store (by decide : 1 ≤ (2 : Int)) threeNames
  rw [flushed, names_threeNames] at content holds gains
  have red := gains.added "redis" (by decide) "red" (by decide)
  have redi := gains.added "redis" (by decide) "redi" (by decide)
  refine ⟨by decide, content, red, redi, fun key held => ?_,
    refused ⟨2, by decide, executed, by decide⟩⟩
  rcases (holds key "redux").mp held with before | ⟨taken, _⟩
  · exact MemoryStore.not_holds_of_absent (by simp [store, MemoryStore.empty]) "redux" before
  · exact absurd taken (by decide)

end Typeahead.Index
