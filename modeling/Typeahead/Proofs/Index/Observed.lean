import Typeahead.Index.Lookup
import Typeahead.Proofs.Index.Effects
import Typeahead.Proofs.Index.Progress

/-!
# What lookups see during a build

While a build goes on, texts are looked up on the same store.  Between two steps of
the build any number of lookups can come (`answers`).

A flush is one step, and the batch is flushed between two names only, so no lookup
finds half a batch or a name under some of its keys only.  Each answer is the one
that the store would give with all pairs of the first names of the feed in it, as
many as had been taken at a flush; and a later lookup sees no fewer names than an
earlier one (`answers_see_flushed_names`).
-/

namespace Typeahead.Index

open Typeahead.Catalog Typeahead.Store

set_option autoImplicit false

/-- What happens next on a store on which the index is built. -/
inductive Turn where
  /-- the build takes a step -/
  | build
  /-- a text is looked up -/
  | ask (lookup : Lookup) (typed : String)
  deriving DecidableEq, Repr, Inhabited

/-- A text that was looked up, and what was suggested for it. -/
structure Answer where
  lookup : Lookup
  typed : String
  given : Except ReadFault (List String)

section Answers

variable {σ β : Type} [RankedStore σ β]

/-- The answers to the lookups that come between the steps of a build.  A build that has not begun
takes no steps. -/
def answers : List Turn → σ → Option (Build β) → List Answer
  | [], _, _ => []
  | .build :: turns, store, none => answers turns store (none : Option (Build β))
  | .build :: turns, store, some build =>
      answers turns (build.step store).1 (some (build.step store).2.1)
  | .ask lookup typed :: turns, store, build =>
      ⟨lookup, typed, lookup.suggestions store typed⟩ :: answers turns store build

/-- The answers to the lookups that come between the steps of the build of a feed. -/
def buildAnswers (enumeration : Enumeration) (store : σ) (batchSize : Int) (feed : Feed)
    (turns : List Turn) : List Answer :=
  answers turns store (Build.start enumeration store batchSize feed).2.toOption

end Answers

/-! ## Stores on a fault plan -/

/-- A lookup depends on the sets and the plan of a store alone. -/
theorem suggestions_congr {first second : Faulty MemoryStore} (base : first.base = second.base)
    (plan : first.plan = second.plan) (lookup : Lookup) (typed : String) :
    lookup.suggestions first typed = lookup.suggestions second typed := by
  simp only [Lookup.suggestions, RankedStore.range, base, plan]

/-- The store with the first names of a feed in it. -/
def snapshot (initial : Faulty MemoryStore) (names : List String) (taken : Nat) :
    Faulty MemoryStore :=
  { initial with base := initial.base.indexed (names.take taken) }

/-- An answer is the one that the store gives with so many names in it. -/
def Sees (initial : Faulty MemoryStore) (names : List String) (taken : Nat) (answer : Answer) :
    Prop :=
  answer.given = answer.lookup.suggestions (snapshot initial names taken) answer.typed

/-! ## Lookups between the steps of a build -/

/-- The names that have been taken at a flush that lands are a flush point. -/
theorem mem_flushPoints_cons {taken flushed : Nat} {store : Faulty MemoryStore}
    {build : Build MemoryBatch} {passed : List (Faulty MemoryStore × Build MemoryBatch)}
    (point : taken = build.flushedAfter flushed store ∨ taken ∈ Build.flushPoints passed) :
    taken = flushed ∨ taken ∈ Build.flushPoints ((store, build) :: passed) := by
  cases landed : build.lands store with
  | false =>
      rw [Build.flushedAfter_of_not_lands landed] at point
      rw [Build.flushPoints, List.filter_cons_of_neg (by simp [landed])]
      exact point
  | true =>
      rw [Build.flushedAfter_of_lands landed] at point
      rw [Build.flushPoints, List.filter_cons_of_pos (by simp [landed]), List.map_cons,
        List.mem_cons]
      exact .inr point

section Answered

variable {initial : Faulty MemoryStore} {names : List String}

/-- Lookups see the store as it is, and then what the next steps of the build make of it. -/
theorem answers_of_progress (turns : List Turn) {flushed steps : Nat} {store : Faulty MemoryStore}
    {build : Build MemoryBatch}
    (progress : Build.Progress initial.base names flushed store build)
    (plan : store.plan = initial.plan) (enough : build.stepsLeft ≤ steps) :
    ∃ seen : List Nat, seen.Pairwise (· ≤ ·) ∧
      (∀ taken ∈ seen, flushed ≤ taken ∧
        (taken = flushed ∨ taken ∈ Build.flushPoints (Build.states steps store build))) ∧
      List.Forall₂ (Sees initial names) seen (answers turns store (some build)) := by
  induction turns generalizing flushed steps store build with
  | nil => exact ⟨[], .nil, nofun, .nil⟩
  | cons turn turns inductionHypothesis =>
      cases turn with
      | ask lookup typed =>
          obtain ⟨seen, grows, points, sees⟩ := inductionHypothesis progress plan enough
          refine ⟨flushed :: seen, .cons (fun taken later => (points taken later).1) grows, ?_,
            .cons ?_ sees⟩
          · rintro taken (_ | ⟨_, later⟩)
            · exact ⟨Nat.le_refl _, .inl rfl⟩
            · exact points taken later
          · have same : store.base = (snapshot initial names flushed).base := progress.content_eq
            exact suggestions_congr same plan lookup typed
      | build =>
          have later := progress.step
          have kept := (Build.plan_step store build).1.trans plan
          have more : flushed ≤ build.flushedAfter flushed store := by
            rw [Build.flushedAfter]
            split
            · exact progress.flushed_le
            · exact Nat.le_refl _
          cases ended : build.ending? with
          | some ending =>
              -- a build that is over stays as it is
              have rests : build.step store = (store, build, []) := by
                simp only [Build.step, Build.ending?_eq_some_iff.mp ended]
              simp only [answers, rests]
              exact inductionHypothesis progress plan enough
          | none =>
              have closer := (Build.move_step store build).stepsLeft_lt ended
              obtain ⟨left, rfl⟩ : ∃ left, steps = left + 1 := ⟨steps - 1, by omega⟩
              obtain ⟨seen, grows, points, sees⟩ :=
                inductionHypothesis later kept (by omega : _ ≤ left)
              refine ⟨seen, grows, fun taken member => ?_, sees⟩
              obtain ⟨since, point⟩ := points taken member
              refine ⟨Nat.le_trans more since, ?_⟩
              simp only [Build.states, ended]
              exact mem_flushPoints_cons point

/-- Lookups on a store that no build changes see the store as it is. -/
theorem answers_none (turns : List Turn) :
    List.Forall₂ (Sees initial names)
      (List.replicate (answers turns initial (none : Option (Build MemoryBatch))).length 0)
      (answers turns initial (none : Option (Build MemoryBatch))) := by
  induction turns with
  | nil => exact .nil
  | cons turn turns inductionHypothesis =>
      cases turn with
      | build => exact inductionHypothesis
      | ask lookup typed => exact .cons (suggestions_congr rfl rfl lookup typed) inductionHypothesis

end Answered

/-- **Every lookup during a build sees the names that had been taken at one of its flushes.**  Each
answer is the one that is given by the store with all pairs of the first names of the feed in it and
nothing of the others: there each of these names has the score zero under each of its keys, every
other score is what it was at first, and no other key has come in.  The number of these names is
zero or belongs to a flush that the build carries out, and it never decreases from one lookup to a
later one. -/
theorem answers_see_flushed_names (enumeration : Enumeration) (store : Faulty MemoryStore)
    (batchSize : Int) (feed : Feed) (turns : List Turn) :
    ∃ seen : List Nat, seen.Pairwise (· ≤ ·) ∧
      (∀ taken ∈ seen, taken = 0 ∨
        taken ∈ Build.flushPoints (buildStates enumeration store batchSize feed)) ∧
      List.Forall₂ (fun taken answer => ∃ held : MemoryStore,
          store.base.Gains (feed.names.take taken) held ∧
          (∀ key name, held.Holds key name ↔
            store.base.Holds key name ∨ name ∈ feed.names.take taken ∧ IsKey key name) ∧
          answer.given =
            answer.lookup.suggestions { store with base := held } answer.typed)
        seen (buildAnswers enumeration store batchSize feed turns) := by
  have held : ∀ taken answer, Sees store feed.names taken answer →
      ∃ held : MemoryStore, store.base.Gains (feed.names.take taken) held ∧
        (∀ key name, held.Holds key name ↔
          store.base.Holds key name ∨ name ∈ feed.names.take taken ∧ IsKey key name) ∧
        answer.given = answer.lookup.suggestions { store with base := held } answer.typed :=
    fun taken answer sees => ⟨_, store.base.gains_indexed _,
      fun key name => store.base.holds_indexed_iff, sees⟩
  by_cases positive : 1 ≤ batchSize
  · obtain ⟨writer, opened, empty⟩ := Writer.exists_open?_eq store positive
    have begun : (Build.start enumeration store batchSize feed).2.toOption =
        some (Build.fresh enumeration writer feed) := by
      simp only [Build.start, opened]
      rfl
    have enough : (Build.fresh enumeration writer feed).stepsLeft ≤
        (Build.fresh enumeration writer feed).bound := by
      simp only [Build.stepsLeft, Build.stepsLeftIn, Build.bound, Build.fresh]
      omega
    obtain ⟨seen, grows, points, sees⟩ :=
      answers_of_progress turns (progress_fresh enumeration store feed empty) rfl enough
    rw [buildStates_of_open opened, buildAnswers, begun]
    exact ⟨seen, grows, fun taken member => (points taken member).2, sees.imp held⟩
  · have begun : (Build.start enumeration store batchSize feed).2.toOption = none := by
      simp only [Build.start, Writer.open?_eq_error store (by omega : batchSize < 1)]
      rfl
    rw [buildAnswers, begun]
    exact ⟨_, List.pairwise_replicate.mpr (.inr (Nat.le_refl 0)),
      fun taken member => .inl (List.eq_of_mem_replicate member), (answers_none turns).imp held⟩

end Typeahead.Index
