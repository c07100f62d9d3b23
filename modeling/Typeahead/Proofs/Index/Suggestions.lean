import Typeahead.Index.Lookup
import Typeahead.Proofs.Store.Ranking

/-!
# What a lookup suggests

A lookup on a store in memory gives the first members of the key, in the order
of their ranks, and as many of them as are wanted (`suggestions_eq`).
-/

namespace Typeahead.Index

open Typeahead.Store

set_option autoImplicit false

/-- The members of a key in the order of their ranks. -/
def membersOf (store : MemoryStore) (key : String) : List String :=
  match store.sets[key]? with
  | none => []
  | some members => ranked members

theorem mem_membersOf_iff {store : MemoryStore} {key name : String} :
    name ∈ membersOf store key ↔ store.Holds key name := by
  cases found : store.sets[key]? with
  | none =>
      simp only [membersOf, found, List.not_mem_nil, false_iff]
      exact MemoryStore.not_holds_of_absent found name
  | some members =>
      simp only [membersOf, found, mem_ranked_iff, MemoryStore.Holds,
        MemoryStore.score?_of_set found]

/-- **Where all scores are zero, the members of a key stand in the strict order of their
characters.** -/
theorem pairwise_membersOf {store : MemoryStore}
    (zeros : ∀ key name score, store.score? key name = some score → score = 0) (key : String) :
    (membersOf store key).Pairwise (· < ·) := by
  cases found : store.sets[key]? with
  | none => simp only [membersOf, found, List.Pairwise.nil]
  | some members =>
      simp only [membersOf, found]
      apply pairwise_ranked
      intro name score scored
      rw [← MemoryStore.score?_of_set found] at scored
      exact zeros key name score scored

/-- **A lookup gives the first members of its key.** -/
theorem suggestions_eq (lookup : Lookup) (positive : 1 ≤ lookup.limit) (store : MemoryStore)
    (key : String) :
    lookup.suggestions store key = .ok ((membersOf store key).take lookup.limit.toNat) := by
  change Except.ok (store.range key 0 (lookup.limit - 1)) = _
  cases found : store.sets[key]? with
  | none => simp only [MemoryStore.range, membersOf, found, List.take_nil]
  | some members => simp only [MemoryStore.range, membersOf, found, rankSlice_zero _ positive]

end Typeahead.Index
