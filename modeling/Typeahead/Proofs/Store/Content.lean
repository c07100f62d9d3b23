import Typeahead.Store.Memory

/-!
# What a store in memory holds

An addition changes the score of one member under one key and nothing else
(`score?_insert`).  After many additions a member has the score that the last
addition for it gives it, or the score that it had if there is none
(`score?_insertAll`); the keys that come into the store are those of the additions.
Additions of one common score can be made in any order (`insertAll_perm`).
-/

namespace Typeahead.Store

set_option autoImplicit false

namespace MemoryStore

/-- The member stands under the key. -/
def Holds (store : MemoryStore) (key member : String) : Prop :=
  (store.score? key member).isSome

/-- Stores are equal when they have the same sets under the same keys. -/
theorem eq_of_sets {first second : MemoryStore}
    (same : ∀ key : String, first.sets[key]? = second.sets[key]?) : first = second := by
  cases first
  cases second
  exact congrArg MemoryStore.mk (Std.ExtTreeMap.ext_getElem? same)

theorem score?_of_set {store : MemoryStore} {key : String} {members : Members}
    (found : store.sets[key]? = some members) (member : String) :
    store.score? key member = members[member]? := by
  simp only [score?, found, Option.bind_some]

/-- Stores are equal when they give all members the same scores under the same keys. -/
theorem eq_of_scores {first second : MemoryStore}
    (scores : ∀ key member, first.score? key member = second.score? key member)
    (absent : ∀ key : String, first.sets[key]? = none ↔ second.sets[key]? = none) :
    first = second := by
  apply eq_of_sets
  intro key
  cases found : first.sets[key]? with
  | none => exact ((absent key).mp found).symm
  | some members =>
      obtain ⟨others, other⟩ : ∃ others, second.sets[key]? = some others :=
        Option.ne_none_iff_exists'.mp fun gone => by simp [(absent key).mpr gone] at found
      rw [other, Option.some.injEq]
      apply Std.ExtTreeMap.ext_getElem?
      intro member
      rw [← score?_of_set found, ← score?_of_set other]
      exact scores key member

theorem not_holds_of_absent {store : MemoryStore} {key : String}
    (absent : store.sets[key]? = none) (member : String) : ¬ store.Holds key member := by
  simp [Holds, score?, absent]

/-! ## One addition -/

/-- An addition changes the set of its own key, which it creates where there is none. -/
theorem sets_insert (store : MemoryStore) (addition : Addition) (key : String) :
    (store.insert addition).sets[key]? =
      if addition.key = key then
        some ((store.sets[key]?.getD ∅).insert addition.member addition.score.value)
      else store.sets[key]? := by
  simp only [insert, Std.ExtTreeMap.getElem?_alter, Std.compare_eq_iff_eq]
  split
  next same => rw [same]
  next => rfl

/-- An addition gives its member its score and keeps every other score. -/
theorem score?_insert (store : MemoryStore) (addition : Addition) (key member : String) :
    (store.insert addition).score? key member =
      if addition.key = key ∧ addition.member = member then some addition.score.value
      else store.score? key member := by
  simp only [score?, sets_insert]
  by_cases sameKey : addition.key = key
  · simp only [sameKey, if_true, true_and, Option.bind_some, Std.ExtTreeMap.getElem?_insert,
      Std.compare_eq_iff_eq]
    cases store.sets[key]? with
    | none => simp only [Option.getD_none, Option.bind_none, Std.ExtTreeMap.getElem?_empty]
    | some members => simp only [Option.getD_some, Option.bind_some]
  · simp only [sameKey, if_false, false_and]

/-- Two additions of one score can change places. -/
theorem insert_comm (store : MemoryStore) {first second : Addition}
    (sameScore : first.score.value = second.score.value) :
    (store.insert first).insert second = (store.insert second).insert first := by
  apply eq_of_sets
  intro key
  simp only [sets_insert]
  by_cases firstKey : first.key = key
  · by_cases secondKey : second.key = key
    · simp only [firstKey, secondKey, if_true, Option.getD_some, Option.some.injEq, sameScore]
      apply Std.ExtTreeMap.ext_getElem?
      intro member
      simp only [Std.ExtTreeMap.getElem?_insert, Std.compare_eq_iff_eq]
      split <;> split <;> rfl
    · simp only [firstKey, secondKey, if_true, if_false]
  · simp only [firstKey, if_false]

/-! ## Many additions -/

@[simp] theorem insertAll_nil (store : MemoryStore) : store.insertAll [] = store := rfl

@[simp] theorem insertAll_cons (store : MemoryStore) (addition : Addition)
    (additions : List Addition) :
    store.insertAll (addition :: additions) = (store.insert addition).insertAll additions := rfl

theorem insertAll_append (store : MemoryStore) (first second : List Addition) :
    store.insertAll (first ++ second) = (store.insertAll first).insertAll second :=
  List.foldl_append

/-- Batches put in one behind the other are their additions put in one behind the other. -/
theorem insertAll_flatten (store : MemoryStore) (batches : List (List Addition)) :
    store.insertAll batches.flatten = batches.foldl insertAll store :=
  List.foldl_flatten

/-- The score that the last addition for a member under a key gives it, if there is one. -/
def lastScore? (additions : List Addition) (key member : String) : Option Rat :=
  (additions.reverse.find? fun addition =>
    addition.key == key && addition.member == member).map fun addition => addition.score.value

theorem lastScore?_cons (addition : Addition) (additions : List Addition) (key member : String) :
    lastScore? (addition :: additions) key member =
      (lastScore? additions key member).or
        (if addition.key = key ∧ addition.member = member then some addition.score.value
          else none) := by
  simp only [lastScore?, List.reverse_cons, List.find?_append, Option.map_or,
    List.find?_singleton, Bool.and_eq_true, beq_iff_eq]
  split <;> rfl

/-- **After many additions the last one for a member decides about its score**, and where there is
none the score is what it was. -/
theorem score?_insertAll (store : MemoryStore) (additions : List Addition) (key member : String) :
    (store.insertAll additions).score? key member =
      (lastScore? additions key member).or (store.score? key member) := by
  induction additions generalizing store with
  | nil => rfl
  | cons addition additions inductionHypothesis =>
      rw [insertAll_cons, inductionHypothesis, score?_insert, lastScore?_cons, Option.or_assoc]
      split <;> rfl

/-- A key stays absent exactly when no addition has it. -/
theorem sets_insertAll_eq_none_iff (store : MemoryStore) (additions : List Addition)
    (key : String) :
    (store.insertAll additions).sets[key]? = none ↔
      store.sets[key]? = none ∧ ∀ addition ∈ additions, addition.key ≠ key := by
  induction additions generalizing store with
  | nil => simp
  | cons addition additions inductionHypothesis =>
      rw [insertAll_cons, inductionHypothesis, sets_insert, List.forall_mem_cons]
      by_cases same : addition.key = key <;> simp [same]

/-- **Additions of one common score can be made in any order.** -/
theorem insertAll_perm (store : MemoryStore) (score : Rat) {first second : List Addition}
    (perm : first.Perm second) (scores : ∀ addition ∈ first, addition.score.value = score) :
    store.insertAll first = store.insertAll second := by
  refine perm.foldl_eq' ?_ store
  intro left leftMember right rightMember between
  exact insert_comm between ((scores left leftMember).trans (scores right rightMember).symm)

end MemoryStore

end Typeahead.Store
