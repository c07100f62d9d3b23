import Typeahead.Proofs.Index.Progress

/-!
# Histories of builds on one store

Builds follow one another on a store that was empty at first, each with a feed
of its own, and any flush of any of them can be refused.  In every state on the
way, between two flushes of one build too, the store is an index
(`WellIndexed`), and no state lacks a member that an earlier one has (`Grows`).

A single addition breaks the property that a name stands under all of its keys.
It holds in the states all the same because each of them is the empty store with
whole names added (`IsIndex`).
-/

namespace Typeahead.Index

open Typeahead.Catalog Typeahead.Store

set_option autoImplicit false

/-! ## Indexes -/

/-- What is true of the sets of an index. -/
structure WellIndexed (store : MemoryStore) : Prop where
  key_long : ∀ (key : String) (members : Members), store.sets[key]? = some members →
    3 ≤ key.length
  inhabited : ∀ (key : String) (members : Members), store.sets[key]? = some members →
    ∃ name, store.Holds key name
  score_zero : ∀ key name score, store.score? key name = some score → score = 0
  proper : ∀ key name, store.Holds key name →
    key.toList <+: name.toList ∧ key.length < name.length
  closed : ∀ key name, store.Holds key name → ∀ other, IsKey other name → store.Holds other name

/-- The store has whole names in it and nothing else. -/
def IsIndex (store : MemoryStore) : Prop :=
  ∃ names, store = MemoryStore.empty.indexed names

theorem score?_empty (key name : String) : MemoryStore.empty.score? key name = none := by
  simp [MemoryStore.score?, MemoryStore.empty]

theorem IsIndex.empty : IsIndex MemoryStore.empty := ⟨[], rfl⟩

theorem IsIndex.indexed {store : MemoryStore} (index : IsIndex store) (names : List String) :
    IsIndex (store.indexed names) := by
  obtain ⟨earlier, rfl⟩ := index
  exact ⟨earlier ++ names, (MemoryStore.empty.indexed_append earlier names).symm⟩

theorem holds_indexed_empty_iff {names : List String} {key name : String} :
    (MemoryStore.empty.indexed names).Holds key name ↔ name ∈ names ∧ IsKey key name := by
  rw [MemoryStore.holds_indexed_iff]
  simp [MemoryStore.Holds, score?_empty]

/-- **A store with whole names in it is an index.** -/
theorem IsIndex.wellIndexed {store : MemoryStore} (index : IsIndex store) : WellIndexed store := by
  obtain ⟨names, rfl⟩ := index
  have inhabited : ∀ (key : String) (members : Members),
      (MemoryStore.empty.indexed names).sets[key]? = some members →
        ∃ name ∈ names, IsKey key name := by
    intro key members found
    by_contra nowhere
    have absent : (MemoryStore.empty.indexed names).sets[key]? = none := by
      refine MemoryStore.empty.sets_indexed_eq_none_iff.mpr ⟨by simp [MemoryStore.empty], ?_⟩
      exact fun name member isKey => nowhere ⟨name, member, isKey⟩
    rw [absent] at found
    cases found
  exact {
    key_long := fun key members found => by
      obtain ⟨_, _, isKey⟩ := inhabited key members found
      exact isKey.long
    inhabited := fun key members found => by
      obtain ⟨name, member, isKey⟩ := inhabited key members found
      exact ⟨name, holds_indexed_empty_iff.mpr ⟨member, isKey⟩⟩
    score_zero := fun key name score => by
      apply MemoryStore.score?_indexed_eq_zero
      intro key name score found
      rw [score?_empty] at found
      cases found
    proper := fun key name held => by
      obtain ⟨_, isKey⟩ := holds_indexed_empty_iff.mp held
      exact ⟨isKey.begins, isKey.short⟩
    closed := fun key name held other isKey => by
      obtain ⟨member, _⟩ := holds_indexed_empty_iff.mp held
      exact holds_indexed_empty_iff.mpr ⟨member, isKey⟩ }

/-! ## Growth -/

section Growth

variable {σ β : Type} [RankedStore σ β] [MemoryBacked σ]

/-- What one store holds the other holds too. -/
def Grows (earlier later : σ) : Prop :=
  ∀ key name, (MemoryBacked.content earlier).Holds key name →
    (MemoryBacked.content later).Holds key name

theorem Grows.refl (store : σ) : Grows store store := fun _ _ held => held

theorem Grows.trans {first second third : σ} (earlier : Grows first second)
    (later : Grows second third) : Grows first third :=
  fun key name held => later key name (earlier key name held)

theorem grows_insertAll (store : MemoryStore) (additions : List Addition) :
    Grows store (store.insertAll additions) := by
  induction additions generalizing store with
  | nil => exact .refl store
  | cons addition additions inductionHypothesis =>
      refine Grows.trans (fun key name held => ?_) (inductionHypothesis (store.insert addition))
      change (store.insert addition).Holds key name
      rw [MemoryStore.Holds, MemoryStore.score?_insert]
      split
      · rfl
      · exact held

theorem grows_flush (store : σ) (writer : Writer β) : Grows store (writer.flush store).2.1 := by
  rw [Writer.store_flush]
  unfold Grows
  cases executed : (RankedStore.execute store writer.batch).1 with
  | error fault =>
      rw [MemoryBacked.content_execute_of_error store writer.batch fault executed]
      exact fun _ _ held => held
  | ok count =>
      rw [MemoryBacked.content_execute_of_ok store writer.batch count executed]
      exact grows_insertAll _ _

theorem grows_move {store after : σ} {build next : Build β}
    (move : Build.Move store build after next) : Grows store after := by
  cases move with
  | flush => exact grows_flush store _
  | failFlush => exact grows_flush store _
  | flushRest => exact grows_flush store _
  | failRest => exact grows_flush store _
  | _ => exact .refl _

/-- **No step of a build takes a member away.** -/
theorem grows_step (store : σ) (build : Build β) : Grows store (build.step store).1 :=
  grows_move (Build.move_step store build)

end Growth

/-! ## Builds one after another -/

/-- What a build is called with. -/
structure BuildCall where
  enumeration : Enumeration
  batchSize : Int
  feed : Feed

section Histories

variable {σ β : Type} [RankedStore σ β]

/-- The states that a build passes through, of its store alone. -/
def BuildCall.states (store : σ) (call : BuildCall) : List σ :=
  (buildStates call.enumeration store call.batchSize call.feed).map Prod.fst

/-- The store that a build leaves. -/
def BuildCall.leaves (store : σ) (call : BuildCall) : σ :=
  (buildIndex call.enumeration store call.batchSize call.feed).store

/-- The states that a store passes through when builds follow one another on it. -/
def historyStates (store : σ) : List BuildCall → List σ
  | [] => [store]
  | call :: calls => store :: call.states store ++ historyStates (call.leaves store) calls

theorem mem_historyStates_cons {store state : σ} {call : BuildCall} {calls : List BuildCall} :
    state ∈ historyStates store (call :: calls) ↔
      state = store ∨ state ∈ call.states store ∨
        state ∈ historyStates (call.leaves store) calls := by
  simp [historyStates]

variable [MemoryBacked σ]

/-- A build either does not begin or is run to its end. -/
theorem BuildCall.begins (store : σ) (call : BuildCall) :
    (call.states store = [] ∧ call.leaves store = store) ∨
      ∃ build : Build β,
        call.states store = (Build.states build.bound store build).map Prod.fst ∧
          call.leaves store = (build.run store).1 := by
  by_cases positive : 1 ≤ call.batchSize
  · obtain ⟨writer, opened, _⟩ := Writer.exists_open?_eq store positive
    refine .inr ⟨Build.fresh call.enumeration writer call.feed, ?_, ?_⟩
    · rw [BuildCall.states, buildStates_of_open opened]
    · exact store_buildIndex_of_open opened
  · have refused := Writer.open?_eq_error store (by omega : call.batchSize < 1)
    refine .inl ⟨?_, store_buildIndex_of_not_open refused⟩
    rw [BuildCall.states, buildStates_of_not_open refused, List.map_nil]

/-! ### What is in the sets -/

theorem isIndex_states {store : σ} (index : IsIndex (MemoryBacked.content store))
    (call : BuildCall) :
    ∀ state ∈ call.states store, IsIndex (MemoryBacked.content state) := by
  intro state passed
  obtain ⟨between, reached, rfl⟩ := List.mem_map.mp passed
  obtain ⟨flushed, content⟩ :=
    content_buildStates call.enumeration store call.batchSize call.feed between reached
  rw [content]
  exact index.indexed _

theorem isIndex_leaves {store : σ} (index : IsIndex (MemoryBacked.content store))
    (call : BuildCall) : IsIndex (MemoryBacked.content (call.leaves store)) := by
  by_cases positive : 1 ≤ call.batchSize
  · obtain ⟨_, content, _⟩ := content_buildIndex call.enumeration store positive call.feed
    rw [BuildCall.leaves, content]
    exact index.indexed _
  · have refused := Writer.open?_eq_error store (by omega : call.batchSize < 1)
    rw [BuildCall.leaves, store_buildIndex_of_not_open refused]
    exact index

theorem isIndex_historyStates {store : σ} (index : IsIndex (MemoryBacked.content store))
    (calls : List BuildCall) :
    ∀ state ∈ historyStates store calls, IsIndex (MemoryBacked.content state) := by
  induction calls generalizing store with
  | nil => simpa [historyStates] using index
  | cons call calls inductionHypothesis =>
      intro state passed
      rcases mem_historyStates_cons.mp passed with rfl | passed | passed
      · exact index
      · exact isIndex_states index call state passed
      · exact inductionHypothesis (isIndex_leaves index call) state passed

/-! ### Nothing is lost -/

/-- What is in the store before a build is there in all of its states, and what is in one of them
is in the store afterwards. -/
theorem grows_states (store : σ) (call : BuildCall) :
    ∀ state ∈ call.states store, Grows store state ∧ Grows state (call.leaves store) := by
  rcases call.begins store with ⟨states, _⟩ | ⟨build, states, leaves⟩
  · rw [states]
    exact fun _ passed => nomatch passed
  · rw [states, leaves]
    intro state passed
    obtain ⟨between, reached, rfl⟩ := List.mem_map.mp passed
    exact Build.grows_states Grows .refl .trans grows_step _ _ _ between reached

theorem grows_leaves (store : σ) (call : BuildCall) : Grows store (call.leaves store) := by
  rcases call.begins store with ⟨_, leaves⟩ | ⟨build, _, leaves⟩
  · rw [leaves]
    exact .refl store
  · rw [leaves]
    exact Build.grows_runFor Grows .refl .trans grows_step _ _ _

theorem pairwise_states (store : σ) (call : BuildCall) :
    (call.states store).Pairwise Grows := by
  rcases call.begins store with ⟨states, _⟩ | ⟨build, states, _⟩
  · rw [states]
    exact .nil
  · rw [states, List.pairwise_map]
    exact Build.pairwise_states Grows .refl .trans grows_step _ _ _

theorem grows_historyStates (store : σ) (calls : List BuildCall) :
    ∀ state ∈ historyStates store calls, Grows store state := by
  induction calls generalizing store with
  | nil => simpa [historyStates] using Grows.refl store
  | cons call calls inductionHypothesis =>
      intro state passed
      rcases mem_historyStates_cons.mp passed with rfl | passed | passed
      · exact .refl _
      · exact (grows_states store call state passed).1
      · exact (grows_leaves store call).trans (inductionHypothesis _ state passed)

theorem pairwise_historyStates (store : σ) (calls : List BuildCall) :
    (historyStates store calls).Pairwise Grows := by
  induction calls generalizing store with
  | nil => exact List.pairwise_singleton _ _
  | cons call calls inductionHypothesis =>
      have first := grows_historyStates store (call :: calls)
      simp only [historyStates, List.cons_append, List.forall_mem_cons] at first
      simp only [historyStates, List.cons_append, List.pairwise_cons, List.pairwise_append]
      refine ⟨first.2, pairwise_states store call, inductionHypothesis _, ?_⟩
      -- what a build has put in by some state is there when the next build begins
      intro earlier passed later after
      exact (grows_states store call earlier passed).2.trans
        (grows_historyStates _ calls later after)

end Histories

/-- **Through all builds on a store that was empty at first, whichever flushes are refused, the
store is an index in every state and never loses a member.** -/
theorem historyStates_wellIndexed (plan : FaultPlan) (calls : List BuildCall) :
    let empty : Faulty MemoryStore := { base := .empty, plan }
    let passed := (historyStates empty calls).map Faulty.base
    (∀ state ∈ passed, WellIndexed state) ∧
      passed.Pairwise fun earlier later =>
        ∀ key name, earlier.Holds key name → later.Holds key name := by
  intro empty passed
  refine ⟨fun state member => ?_, ?_⟩
  · obtain ⟨between, reached, rfl⟩ := List.mem_map.mp member
    have index : IsIndex (MemoryBacked.content empty) := .empty
    exact (isIndex_historyStates index calls between reached).wellIndexed
  · rw [List.pairwise_map]
    exact pairwise_historyStates empty calls

end Typeahead.Index
