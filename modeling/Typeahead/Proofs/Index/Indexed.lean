import Typeahead.Index.Writer
import Typeahead.Proofs.Index.Keys
import Typeahead.Proofs.Store.Content

/-!
# Stores with names added

A store with names added (`indexed`) is the store with every pair of every name
put into it.  It holds what it held before and, under each of its keys, each of
the names (`holds_indexed_iff`); a name under one of its keys has the score zero
and every other score is what it was.  The order in which the pairs of a name
are listed cannot be seen in it (`addPairs_flatMap_pairs`).

What has been gained by the names can be said without a word on how they were put
in (`Gains`), and the store with the names added is the only one of which it is true
(`gains_iff`).
-/

namespace Typeahead.Store.MemoryStore

open Typeahead.Index

set_option autoImplicit false

/-- The store with pairs put into it in order. -/
def addPairs (store : MemoryStore) (pairs : List Pair) : MemoryStore :=
  store.insertAll (pairs.map Writer.addition)

/-- The store with each name put under all of its keys. -/
def indexed (store : MemoryStore) (names : List String) : MemoryStore :=
  store.addPairs (names.flatMap expansion)

/-! ## Pairs -/

theorem addPairs_cons (store : MemoryStore) (pair : Pair) (pairs : List Pair) :
    store.addPairs (pair :: pairs) = (store.insert (Writer.addition pair)).addPairs pairs := rfl

theorem addPairs_append (store : MemoryStore) (first second : List Pair) :
    store.addPairs (first ++ second) = (store.addPairs first).addPairs second := by
  simp only [addPairs, List.map_append, insertAll_append]

/-- A key stays absent exactly when no pair has it. -/
theorem sets_addPairs_eq_none_iff (store : MemoryStore) (pairs : List Pair) (key : String) :
    (store.addPairs pairs).sets[key]? = none ↔
      store.sets[key]? = none ∧ ∀ pair ∈ pairs, pair.key ≠ key := by
  rw [addPairs, sets_insertAll_eq_none_iff, List.forall_mem_map]
  rfl

/-- A pair that is put in has the score zero, and no other score is touched. -/
theorem score?_addPairs (store : MemoryStore) (pairs : List Pair) (key name : String) :
    (store.addPairs pairs).score? key name =
      if ⟨key, name⟩ ∈ pairs then some 0 else store.score? key name := by
  induction pairs generalizing store with
  | nil => simp [addPairs]
  | cons pair pairs inductionHypothesis =>
      obtain ⟨pairKey, pairName⟩ := pair
      rw [addPairs_cons, inductionHypothesis, score?_insert]
      by_cases later : ⟨key, name⟩ ∈ pairs
      · simp only [later, List.mem_cons, or_true, if_true]
      · simp only [later, List.mem_cons, or_false, if_false, Pair.mk.injEq, Writer.addition,
          @eq_comm _ key, @eq_comm _ name]
        rfl

/-! ## Names -/

theorem indexed_append (store : MemoryStore) (first second : List String) :
    store.indexed (first ++ second) = (store.indexed first).indexed second := by
  simp only [indexed, List.flatMap_append, addPairs_append]

/-- **The order in which the pairs of each name are put in does not matter.** -/
theorem addPairs_flatMap_pairs (store : MemoryStore) (enumeration : Enumeration)
    (names : List String) :
    store.addPairs (names.flatMap enumeration.pairs) = store.indexed names := by
  refine store.insertAll_perm 0 ((enumeration.flatMap_pairs_perm names).map Writer.addition) ?_
  intro addition member
  obtain ⟨pair, _, rfl⟩ := List.mem_map.mp member
  rfl

theorem mem_flatMap_expansion_iff {key name : String} {names : List String} :
    ⟨key, name⟩ ∈ names.flatMap expansion ↔ name ∈ names ∧ IsKey key name := by
  rw [List.mem_flatMap]
  constructor
  · rintro ⟨other, member, listed⟩
    obtain ⟨rfl, isKey⟩ := mem_expansion_iff.mp listed
    exact ⟨member, isKey⟩
  · rintro ⟨member, isKey⟩
    exact ⟨name, member, mem_expansion_iff.mpr ⟨rfl, isKey⟩⟩

/-- Each name that is added has the score zero under each of its keys. -/
theorem score?_indexed_of_isKey (store : MemoryStore) {names : List String} {key name : String}
    (member : name ∈ names) (isKey : IsKey key name) :
    (store.indexed names).score? key name = some 0 := by
  rw [indexed, score?_addPairs, if_pos (mem_flatMap_expansion_iff.mpr ⟨member, isKey⟩)]

/-- Every other score is what it was. -/
theorem score?_indexed_of_not_isKey (store : MemoryStore) {names : List String}
    {key name : String} (untouched : ¬ (name ∈ names ∧ IsKey key name)) :
    (store.indexed names).score? key name = store.score? key name := by
  rw [indexed, score?_addPairs, if_neg (mt mem_flatMap_expansion_iff.mp untouched)]

/-- **What a store with names added holds.** -/
theorem holds_indexed_iff (store : MemoryStore) {names : List String} {key name : String} :
    (store.indexed names).Holds key name ↔
      store.Holds key name ∨ name ∈ names ∧ IsKey key name := by
  by_cases added : name ∈ names ∧ IsKey key name
  · simp only [Holds, store.score?_indexed_of_isKey added.1 added.2, Option.isSome_some, added,
      and_self, or_true]
  · simp only [Holds, store.score?_indexed_of_not_isKey added, added, or_false]

/-- A key that was absent stays absent exactly when it is a key of none of the names. -/
theorem sets_indexed_eq_none_iff (store : MemoryStore) {names : List String} {key : String} :
    (store.indexed names).sets[key]? = none ↔
      store.sets[key]? = none ∧ ∀ name ∈ names, ¬ IsKey key name := by
  rw [indexed, sets_addPairs_eq_none_iff]
  refine and_congr_right fun _ => ⟨fun others name member isKey => ?_, ?_⟩
  · exact others _ (mem_flatMap_expansion_iff.mpr ⟨member, isKey⟩) rfl
  · rintro others ⟨_, name⟩ listed rfl
    obtain ⟨member, isKey⟩ := mem_flatMap_expansion_iff.mp listed
    exact others name member isKey

/-- A later store has gained names: each of them has the score zero under each of its keys, every
other score is what it was, and no other key has come in. -/
structure Gains (store : MemoryStore) (names : List String) (later : MemoryStore) : Prop where
  added : ∀ name ∈ names, ∀ key, IsKey key name → later.score? key name = some 0
  kept : ∀ key name, ¬ (name ∈ names ∧ IsKey key name) →
    later.score? key name = store.score? key name
  absent : ∀ key, later.sets[key]? = none ↔
    store.sets[key]? = none ∧ ∀ name ∈ names, ¬ IsKey key name

theorem gains_indexed (store : MemoryStore) (names : List String) :
    store.Gains names (store.indexed names) where
  added _ member _ isKey := store.score?_indexed_of_isKey member isKey
  kept _ _ untouched := store.score?_indexed_of_not_isKey untouched
  absent _ := store.sets_indexed_eq_none_iff

/-- **What a store gains by names determines it.** -/
theorem gains_iff {store later : MemoryStore} {names : List String} :
    store.Gains names later ↔ later = store.indexed names := by
  constructor
  · intro gains
    have scores : ∀ key name, later.score? key name = (store.indexed names).score? key name := by
      intro key name
      by_cases added : name ∈ names ∧ IsKey key name
      · rw [gains.added name added.1 key added.2, store.score?_indexed_of_isKey added.1 added.2]
      · rw [gains.kept key name added, store.score?_indexed_of_not_isKey added]
    have absent : ∀ key, later.sets[key]? = none ↔ (store.indexed names).sets[key]? = none :=
      fun key => (gains.absent key).trans store.sets_indexed_eq_none_iff.symm
    exact eq_of_scores scores absent
  · rintro rfl
    exact store.gains_indexed names

/-- Adding names keeps all scores at zero. -/
theorem score?_indexed_eq_zero {store : MemoryStore}
    (zeros : ∀ key name score, store.score? key name = some score → score = 0)
    {names : List String} {key name : String} {score : Rat}
    (found : (store.indexed names).score? key name = some score) : score = 0 := by
  by_cases added : name ∈ names ∧ IsKey key name
  · rw [store.score?_indexed_of_isKey added.1 added.2] at found
    exact (Option.some.inj found).symm
  · rw [store.score?_indexed_of_not_isKey added] at found
    exact zeros key name score found

end Typeahead.Store.MemoryStore
