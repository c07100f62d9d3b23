import Mathlib.Data.List.Basic
import Typeahead.Proofs.Store.RankList

/-!
# A server as the mirror of a store in memory

A client opens batches, fills, executes and closes them, and reads members by
their ranks (`Step`).  To a client that is alone on a server and sends only
exact scores, the server answers what a store in memory answers: the server that
mirrors a store holds the ranked list of each of its sets, and each step takes
the mirror of a session to the mirror of the next (`Session.step_mirror`).
-/

namespace Typeahead.Store

open Typeahead.Decimal

set_option autoImplicit false

/-! ## Sessions -/

/-- What a client does with a store; a batch is named by how many were opened before it. -/
inductive Step where
  | openBatch
  | add (number : Nat) (addition : Addition)
  | execute (number : Nat)
  | close (number : Nat)
  | range (key : String) (start stop : Int)
  deriving DecidableEq, Repr, Inhabited

/-- What a client gets for a step. -/
inductive Answer where
  | opened (number : Nat)
  | done
  | executed (outcome : Except FlushFault Nat)
  | members (outcome : Except ReadFault (List String))
  /-- the step names a batch that was never opened -/
  | unopened
  deriving DecidableEq

/-- A store with the batches that a client has opened on it. -/
structure Session (σ β : Type) where
  store : σ
  batches : List β := []

namespace Session

variable {σ β : Type} [RankedStore σ β]

/-- A client that has opened nothing yet. -/
def start (store : σ) : Session σ β := { store }

/-- Takes one step. -/
def step (session : Session σ β) : Step → Answer × Session σ β
  | .openBatch =>
      (.opened session.batches.length,
        { session with batches := session.batches ++ [RankedStore.openBatch session.store] })
  | .add number addition =>
      match session.batches[number]? with
      | none => (.unopened, session)
      | some batch =>
          (.done, { session with
            batches := session.batches.set number (RankedStore.add σ batch addition) })
  | .execute number =>
      match session.batches[number]? with
      | none => (.unopened, session)
      | some batch =>
          let run := RankedStore.execute session.store batch
          (.executed run.1, { store := run.2.1, batches := session.batches.set number run.2.2 })
  | .close number =>
      match session.batches[number]? with
      | none => (.unopened, session)
      | some batch =>
          (.done, { session with
            batches := session.batches.set number (RankedStore.discard σ batch) })
  | .range key start stop => (.members (RankedStore.range session.store key start stop), session)

/-- The answers to a sequence of steps. -/
def answers (session : Session σ β) : List Step → List Answer
  | [] => []
  | step :: steps => (session.step step).1 :: answers (session.step step).2 steps

end Session

/-! ## Scores and ranks that a server takes -/

/-- The score is a finite number, and no digit of it is lost when it is sent. -/
def Score.IsExact : Score → Prop
  | .whole value => (Binary64.ofInt value).isFinite ∧ (Binary64.ofInt value).value = value
  | .real value => value.isFinite

instance (score : Score) : Decidable score.IsExact :=
  match score with
  | .whole _ => inferInstanceAs (Decidable (_ ∧ _))
  | .real _ => inferInstanceAs (Decidable (_ = _))

theorem Score.IsExact.sentValue_eq {score : Score} (exact : score.IsExact) :
    score.sentValue = score.value := by
  cases score with
  | whole value => exact exact.2
  | real value => rfl

/-- The step sends an exact score, or ranks that fit into 64 bits. -/
def Step.IsSupported : Step → Prop
  | .add _ addition => addition.score.IsExact
  | .range _ start stop => ServerStore.isRank start ∧ ServerStore.isRank stop
  | _ => True

instance (step : Step) : Decidable step.IsSupported :=
  match step with
  | .add _ addition => inferInstanceAs (Decidable addition.score.IsExact)
  | .range _ _ _ => inferInstanceAs (Decidable (_ ∧ _))
  | .openBatch | .execute _ | .close _ => inferInstanceAs (Decidable True)

/-! ## The mirror of a store -/

/-- The server that holds the ranked list of each set. -/
def MemoryStore.mirror (store : MemoryStore) : ServerStore where
  holdings := store.sets.map fun _ members => .set (rankedEntries members)
  outage := none

/-- The batch that has the same additions to send. -/
def MemoryBatch.mirror (batch : MemoryBatch) : ServerBatch where
  commands := batch.additions
  count := batch.additions.length

/-- Additions are queued in a batch and in its mirror alike. -/
theorem MemoryBatch.mirror_add (batch : MemoryBatch) (addition : Addition) :
    RankedStore.add ServerStore batch.mirror addition =
      (RankedStore.add MemoryStore batch addition).mirror := by
  simp only [RankedStore.add, MemoryBatch.mirror, List.length_append, List.length_singleton]

namespace MemoryStore

theorem mirror_empty : empty.mirror = ServerStore.empty := by
  refine congrArg₂ ServerStore.mk (Std.ExtTreeMap.ext_getElem? fun key => ?_) rfl
  simp [empty]

theorem holdings_mirror (store : MemoryStore) (key : String) :
    store.mirror.holdings[key]? =
      (store.sets[key]?).map fun members => .set (rankedEntries members) :=
  Std.ExtTreeMap.getElem?_map

/-- An addition changes one list of the mirror. -/
theorem holdings_mirror_insert (store : MemoryStore) (addition : Addition) :
    (store.insert addition).mirror.holdings =
      store.mirror.holdings.insert addition.key
        (.set (rankedEntries (((store.sets[addition.key]?).getD ∅).insert addition.member
          addition.score.value))) := by
  refine Std.ExtTreeMap.ext_getElem? fun key => ?_
  rw [Std.ExtTreeMap.getElem?_insert, holdings_mirror, holdings_mirror, sets_insert]
  by_cases same : addition.key = key
  · rw [if_pos same, if_pos (Std.compare_eq_iff_eq.mpr same), ← same]
    rfl
  · rw [if_neg same, if_neg (mt Std.compare_eq_iff_eq.mp same)]

/-- **A command does to the mirror what the addition does to the store.** -/
theorem insert?_mirror (store : MemoryStore) {addition : Addition}
    (exact : addition.score.IsExact) :
    ServerStore.insert? store.mirror.holdings addition =
      some (store.insert addition).mirror.holdings := by
  rw [holdings_mirror_insert, ServerStore.insert?, holdings_mirror, exact.sentValue_eq]
  cases store.sets[addition.key]? with
  | none =>
      rw [Option.getD_none, ← rankMember_rankedEntries, rankedEntries_empty]
      rfl
  | some members =>
      rw [Option.getD_some, ← rankMember_rankedEntries]
      rfl

/-- **The commands of a transaction all succeed and leave the mirror of the new store.** -/
theorem runAll_mirror (store : MemoryStore) (number : Nat) {additions : List Addition}
    (exact : ∀ addition ∈ additions, addition.score.IsExact) :
    ServerStore.runAll store.mirror.holdings number additions =
      (none, (store.insertAll additions).mirror.holdings) := by
  induction additions generalizing store number with
  | nil => rfl
  | cons addition additions inductionHypothesis =>
      rw [List.forall_mem_cons] at exact
      simp only [ServerStore.runAll, insert?_mirror store exact.1]
      exact inductionHypothesis (store.insert addition) (number + 1) exact.2

/-- Executing a batch on the mirror and on the store have the same outcome. -/
theorem execute_mirror (store : MemoryStore) {batch : MemoryBatch}
    (exact : ∀ addition ∈ batch.additions, addition.score.IsExact) :
    RankedStore.execute store.mirror batch.mirror =
      ((RankedStore.execute store batch).1, (RankedStore.execute store batch).2.1.mirror,
        (RankedStore.execute store batch).2.2.mirror) := by
  change store.mirror.send batch.mirror =
    (.ok batch.additions.length, (store.insertAll batch.additions).mirror, MemoryBatch.mirror {})
  by_cases empty : batch.additions = []
  · have unchanged : batch = {} := congrArg MemoryBatch.mk empty
    rw [unchanged]
    rfl
  · have counted : batch.mirror.count ≠ 0 := mt List.length_eq_zero_iff.mp empty
    have reachable : store.mirror.outage = none := rfl
    have landed : ServerStore.runAll store.mirror.holdings 1 batch.mirror.commands =
        (none, (store.insertAll batch.additions).mirror.holdings) := runAll_mirror store 1 exact
    simp only [ServerStore.send, if_neg counted, reachable, landed]
    rfl

/-- The mirror has the same members at the same ranks. -/
theorem range_mirror (store : MemoryStore) (key : String) {start stop : Int}
    (ranks : ServerStore.isRank start ∧ ServerStore.isRank stop) :
    RankedStore.range store.mirror key start stop = RankedStore.range store key start stop := by
  change store.mirror.range key start stop = .ok (store.range key start stop)
  have inRange : (ServerStore.isRank start && ServerStore.isRank stop) = true := by
    rw [ranks.1, ranks.2, Bool.and_self]
  have reachable : store.mirror.outage = none := rfl
  simp only [ServerStore.range, reachable, inRange, if_true, holdings_mirror, MemoryStore.range]
  cases store.sets[key]? with
  | none => rfl
  | some members =>
      simp only [Option.map_some, ranked_eq, map_rankSlice]
      rw [rankSlice_eq_rankRange]

end MemoryStore

/-! ## A session and its mirror -/

namespace Session

variable {session : Session MemoryStore MemoryBatch}

/-- The session on the mirror of the store. -/
def mirror (session : Session MemoryStore MemoryBatch) : Session ServerStore ServerBatch where
  store := session.store.mirror
  batches := session.batches.map MemoryBatch.mirror

@[simp] theorem store_mirror : session.mirror.store = session.store.mirror := rfl

/-- Everything queued has an exact score. -/
def IsExact (session : Session MemoryStore MemoryBatch) : Prop :=
  ∀ batch ∈ session.batches, ∀ addition ∈ batch.additions, addition.score.IsExact

/-- Replacing a batch by one with exact scores keeps a session exact. -/
theorem IsExact.set (exact : session.IsExact) (store : MemoryStore) (number : Nat)
    {batch : MemoryBatch} (added : ∀ addition ∈ batch.additions, addition.score.IsExact) :
    IsExact { store, batches := session.batches.set number batch } := by
  intro other member
  rcases List.mem_or_eq_of_mem_set member with member | rfl
  · exact exact other member
  · exact added

theorem IsExact.step (exact : session.IsExact) {step : Step} (supported : step.IsSupported) :
    (session.step step).2.IsExact := by
  have nothing : ∀ addition ∈ ({} : MemoryBatch).additions, addition.score.IsExact :=
    fun _ member => nomatch member
  cases step with
  | openBatch =>
      intro batch member
      rcases List.mem_append.mp member with member | member
      · exact exact batch member
      · rw [List.mem_singleton.mp member]
        exact nothing
  | add number addition =>
      cases found : session.batches[number]? with
      | none => simpa only [Session.step, found] using exact
      | some batch =>
          simp only [Session.step, found]
          refine exact.set _ number fun other member => ?_
          rcases List.mem_append.mp member with member | member
          · exact exact batch (List.mem_of_getElem? found) other member
          · rw [List.mem_singleton.mp member]
            exact supported
  | execute number =>
      cases found : session.batches[number]? with
      | none => simpa only [Session.step, found] using exact
      | some batch =>
          simp only [Session.step, found]
          exact exact.set _ number nothing
  | close number =>
      cases found : session.batches[number]? with
      | none => simpa only [Session.step, found] using exact
      | some batch =>
          simp only [Session.step, found]
          exact exact.set _ number nothing
  | range key start stop => exact exact

theorem getElem?_batches_mirror {number : Nat} {batch : MemoryBatch}
    (found : session.batches[number]? = some batch) :
    session.mirror.batches[number]? = some batch.mirror := by
  simp only [mirror, List.getElem?_map, found, Option.map_some]

theorem getElem?_batches_mirror_eq_none {number : Nat}
    (missing : session.batches[number]? = none) : session.mirror.batches[number]? = none := by
  simp only [mirror, List.getElem?_map, missing, Option.map_none]

theorem mirror_set (store : MemoryStore) (number : Nat) (batch : MemoryBatch) :
    mirror { store, batches := session.batches.set number batch } =
      { store := store.mirror, batches := session.mirror.batches.set number batch.mirror } := by
  simp only [mirror, List.map_set]

/-- **A step on the mirror has the same answer and leads to the mirror of the next session.** -/
theorem step_mirror (exact : session.IsExact) {step : Step} (supported : step.IsSupported) :
    session.mirror.step step = ((session.step step).1, (session.step step).2.mirror) := by
  cases step with
  | openBatch =>
      simp only [Session.step, mirror, List.length_map, List.map_append]
      rfl
  | add number addition =>
      cases found : session.batches[number]? with
      | none => simp only [Session.step, found, getElem?_batches_mirror_eq_none found]
      | some batch =>
          simp only [Session.step, found, getElem?_batches_mirror found, mirror_set,
            MemoryBatch.mirror_add]
          rfl
  | execute number =>
      cases found : session.batches[number]? with
      | none => simp only [Session.step, found, getElem?_batches_mirror_eq_none found]
      | some batch =>
          have executed := session.store.execute_mirror
            (exact batch (List.mem_of_getElem? found))
          simp only [Session.step, found, getElem?_batches_mirror found, mirror_set, store_mirror,
            executed]
  | close number =>
      cases found : session.batches[number]? with
      | none => simp only [Session.step, found, getElem?_batches_mirror_eq_none found]
      | some batch =>
          simp only [Session.step, found, getElem?_batches_mirror found, mirror_set]
          rfl
  | range key start stop =>
      have read := session.store.range_mirror key supported
      simp only [Session.step, store_mirror, read]

theorem answers_mirror (exact : session.IsExact) {steps : List Step}
    (supported : ∀ step ∈ steps, step.IsSupported) :
    session.mirror.answers steps = session.answers steps := by
  induction steps generalizing session with
  | nil => rfl
  | cons step steps inductionHypothesis =>
      rw [List.forall_mem_cons] at supported
      rw [answers, answers, step_mirror exact supported.1]
      exact congrArg _ (inductionHypothesis (exact.step supported.1) supported.2)

theorem mirror_start_empty : (start MemoryStore.empty).mirror = start ServerStore.empty :=
  congrArg start MemoryStore.mirror_empty

/-- **A client that is alone on a reachable server gets the answers that a store in memory gives,
for all steps with exact scores and ranks of 64 bits.** -/
theorem answers_server_eq_answers_memory (steps : List Step)
    (supported : ∀ step ∈ steps, step.IsSupported) :
    (start ServerStore.empty).answers steps = (start MemoryStore.empty).answers steps := by
  have exact : (start MemoryStore.empty).IsExact := fun _ member => nomatch member
  rw [← mirror_start_empty]
  exact answers_mirror exact supported

/-- Two batches, the first of which is filled again after it was executed and moves a member. -/
def twoBatches : List Step :=
  [.openBatch, .openBatch, .add 0 ⟨"caf", "café", .whole 2⟩, .add 1 ⟨"caf", "cafe", .whole 1⟩,
    .add 0 ⟨"caf", "caff", .real ⟨0xBFE0000000000000⟩⟩, .execute 0, .range "caf" 0 (-1),
    .add 0 ⟨"caf", "caff", .whole 2⟩, .execute 0, .execute 1, .add 1 ⟨"caf", "cafes", .zero⟩,
    .close 1, .execute 1, .range "caf" 0 9, .range "caf" (-3) (-2), .range "car" 0 5]

theorem answers_memory_twoBatches :
    (∀ step ∈ twoBatches, step.IsSupported) ∧
      (start MemoryStore.empty).answers twoBatches =
        [.opened 0, .opened 1, .done, .done, .done, .executed (.ok 2),
          .members (.ok ["caff", "café"]), .done, .executed (.ok 1), .executed (.ok 1), .done,
          .done,
          .executed (.ok 0), .members (.ok ["cafe", "caff", "café"]),
          .members (.ok ["cafe", "caff"]), .members (.ok [])] := by
  have supported : ∀ step ∈ twoBatches, step.IsSupported := by decide +kernel
  refine ⟨supported, (answers_server_eq_answers_memory twoBatches supported).symm.trans ?_⟩
  decide +kernel

end Session

end Typeahead.Store
