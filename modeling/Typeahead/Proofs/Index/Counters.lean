import Typeahead.Proofs.Index.Cuts
import Typeahead.Proofs.Index.Progress

/-!
# What the counters of a build say

From what is still to come for a build it can be told which counters the build
will report if nothing fails (`outlook`), and how large the batches will be that
it has still to flush (`sizesAhead`).  No step changes the outlook of a build
that is not lost, and a step that flushes a batch flushes the first one of those
foreseen (`Steady.foreseen_of_move`).  So a build that succeeds reports what
could be foreseen when it began, and this is counted in the lines of its feed
(`counters_of_built`).
-/

namespace Typeahead.Index

open Typeahead.Catalog Typeahead.Store

set_option autoImplicit false

theorem Enumeration.weight_eq_zero {enumeration : Enumeration} {name : String}
    (short : enumeration.pairs name = []) : weight name = 0 := by
  rw [← enumeration.length_pairs, short, List.length_nil]

theorem Enumeration.weight_pos {enumeration : Enumeration} {name : String}
    (long : enumeration.pairs name ≠ []) : 0 < weight name := by
  rw [← enumeration.length_pairs]
  exact List.length_pos_iff.mpr long

/-- The stage leads to a failure. -/
def Stage.isLost : Stage → Bool
  | .closing _ _ => true
  | .finished (.failed _) => true
  | _ => false

namespace Build

variable {σ β : Type} [RankedStore σ β]

/-! ## What is foreseen -/

/-- How many keys the names have that are still to come. -/
def weightsAhead (build : Build β) : List Nat :=
  (namesAhead build.pass build.signals).map weight

/-- The sizes of the batches that are still to be flushed, if nothing fails. -/
def sizesAhead (build : Build β) : List Nat :=
  match build.stage with
  | .reading => batchSizes build.writer.batchSize build.writer.pending build.weightsAhead
  | .flushing =>
      build.writer.pending :: batchSizes build.writer.batchSize 0 build.weightsAhead
  | .flushingRest => batchSizes build.writer.batchSize build.writer.pending []
  | _ => []

/-- The counters that a build that is not over will report if nothing fails. -/
def forecast (build : Build β) : Counters :=
  { namesSeen := build.namesSeen + build.weightsAhead.length
    namesIndexed := build.namesIndexed + build.weightsAhead.countP (0 < ·)
    pairsWritten := build.writer.pairsWritten + build.writer.pending + build.weightsAhead.sum
    batchesFlushed := build.writer.batchesFlushed + build.sizesAhead.length
    malformed := malformedAhead build.pass build.signals }

/-- The counters that a build reports in the end if nothing fails. -/
def outlook (build : Build β) : Counters :=
  match build.stage with
  | .finished (.built counters) => counters
  | _ => build.forecast

theorem outlook_of_isWriting {build : Build β} (writing : build.stage.isWriting = true) :
    build.outlook = build.forecast := by
  cases stage : build.stage with
  | finished _ =>
      rw [stage] at writing
      exact absurd writing Bool.false_ne_true
  | _ => simp only [outlook, stage]

/-- The batch that the next step flushes, given by its size. -/
def landing (store : σ) (build : Build β) : List Nat :=
  if build.lands store then [RankedStore.queued σ build.writer.batch] else []

/-- How large the batches were that the store has executed. -/
def flushSizes (passed : List (σ × Build β)) : List Nat :=
  (passed.filter fun state => state.2.lands state.1).map fun state =>
    RankedStore.queued σ state.2.writer.batch

theorem flushSizes_cons (store : σ) (build : Build β) (passed : List (σ × Build β)) :
    flushSizes ((store, build) :: passed) = build.landing store ++ flushSizes passed := by
  cases landed : build.lands store with
  | false => simp [flushSizes, landing, landed]
  | true => simp [flushSizes, landing, landed]

/-! ## From one step to the next -/

section Steps

variable {store after : σ} {build next : Build β}

/-- A build that is lost stays lost. -/
theorem isLost_of_move (move : Move store build after next) (lost : build.stage.isLost = true) :
    next.stage.isLost = true := by
  cases move with
  | close _ => rfl
  | closed _ => rfl
  | rest _ => exact lost
  | _ stage =>
      rw [stage] at lost
      exact absurd lost Bool.false_ne_true

theorem isLost_runFor (steps : Nat) (store : σ) (lost : build.stage.isLost = true) :
    (runFor steps store build).2.1.stage.isLost = true := by
  induction steps generalizing store build with
  | zero => exact lost
  | succ steps inductionHypothesis =>
      cases ended : build.ending? with
      | some ending => simpa only [runFor, ended] using lost
      | none =>
          simp only [runFor, ended]
          exact inductionHypothesis _ (isLost_of_move (move_step store build) lost)

theorem isLost_breakOff (build : Build β) (fault : BuildFault) :
    (build.breakOff σ fault).stage.isLost = true := by
  cases closing : build.closing <;> simp [breakOff, closing, Stage.isLost]

variable [Queueing σ]

variable (σ) in
/-- What holds between two steps of a build: its writer has counted what is queued, its batch is
not full where the feed is read on, and nothing is left of a feed that is over. -/
structure Steady (build : Build β) : Prop where
  queues : ∃ pairs, build.writer.Queues σ pairs
  short : build.stage = .reading → build.writer.pending < build.writer.batchSize
  ended : build.stage = .flushingRest → build.signals = []

/-- What was foreseen for a build has come about in a step. -/
structure Foreseen (store : σ) (build next : Build β) : Prop where
  steady : Steady σ next
  outlook_eq : next.outlook = build.outlook
  sizes_eq : build.sizesAhead = build.landing store ++ next.sizesAhead

/-- What comes next holds no name. -/
theorem Foreseen.quiet (steady : Steady σ build) (stage : build.stage = .reading)
    {signals : List Signal} {pass : PassState}
    (weights : namesAhead pass signals = namesAhead build.pass build.signals)
    (malformed : malformedAhead pass signals = malformedAhead build.pass build.signals) :
    Foreseen store build { build with signals, pass } where
  steady := ⟨steady.queues, steady.short, by simp [stage]⟩
  outlook_eq := by
    simp only [outlook, forecast, sizesAhead, weightsAhead, stage, weights, malformed]
  sizes_eq := by
    simp [landing, lands, sizesAhead, weightsAhead, stage, weights]

/-- A name comes next, and its pairs are queued. -/
theorem Foreseen.take (stage : build.stage = .reading) (name : String)
    (queues : ∃ pairs, next.writer.Queues σ pairs)
    (weights : build.weightsAhead = weight name :: next.weightsAhead)
    (malformed : malformedAhead next.pass next.signals = malformedAhead build.pass build.signals)
    (seen : next.namesSeen = build.namesSeen + 1)
    (indexed : next.namesIndexed = build.namesIndexed + if 0 < weight name then 1 else 0)
    (pending : next.writer.pending = build.writer.pending + weight name)
    (size : next.writer.batchSize = build.writer.batchSize)
    (written : next.writer.pairsWritten = build.writer.pairsWritten)
    (flushed : next.writer.batchesFlushed = build.writer.batchesFlushed)
    (stageNext : next.stage = if next.writer.isFull then .flushing else .reading) :
    Foreseen store build next := by
  have sizes : build.sizesAhead = next.sizesAhead := by
    cases full : next.writer.isFull with
    | true =>
        have reached : build.writer.batchSize ≤ build.writer.pending + weight name := by
          rw [← size, ← pending]
          exact of_decide_eq_true full
        simp only [sizesAhead, stage, stageNext, full, if_true, weights,
          batchSizes_cons_of_le reached, pending, size]
    | false =>
        have short : build.writer.pending + weight name < build.writer.batchSize := by
          rw [← size, ← pending]
          exact Nat.not_le.mp (of_decide_eq_false full)
        simp only [sizesAhead, stage, stageNext, full, Bool.false_eq_true, if_false, weights,
          batchSizes_cons_of_lt short, pending, size]
  have writing : next.stage.isWriting = true := by
    rw [stageNext]
    split <;> rfl
  exact {
    steady := {
      queues
      short := fun reading => by
        rw [stageNext] at reading
        split at reading
        next => cases reading
        next short => exact Nat.not_le.mp (mt decide_eq_true short)
      ended := fun ended => by
        rw [stageNext] at ended
        split at ended <;> cases ended }
    outlook_eq := by
      rw [outlook_of_isWriting writing, outlook_of_isWriting (by rw [stage]; rfl), forecast,
        forecast, ← sizes, weights, malformed, seen, indexed, pending, written, flushed,
        List.length_cons, List.countP_cons, List.sum_cons]
      simp only [decide_eq_true_eq, Counters.mk.injEq, and_true]
      omega
    sizes_eq := by
      rw [sizes, landing, if_neg (by simp [lands, stage]), List.nil_append] }

variable [CountsQueues σ]

/-- A batch is flushed. -/
theorem Foreseen.flush (steady : Steady σ build) (stage : build.stage = .flushing)
    (succeeded : (build.writer.flush store).1 = .ok ()) :
    Foreseen store build
      { build with writer := (build.writer.flush store).2.2, stage := .reading } := by
  obtain ⟨pairs, queues⟩ := steady.queues
  obtain ⟨written, flushed⟩ := Writer.counts_flush_of_ok succeeded
  have pending := Writer.pending_flush store build.writer
  have size := Writer.batchSize_flush store build.writer
  exact {
    steady := {
      queues := ⟨[], queues.flush store⟩
      short := fun _ => by rw [pending]; exact Writer.batchSize_pos _
      ended := nofun }
    outlook_eq := by
      simp only [outlook, forecast, sizesAhead, weightsAhead, stage, written, flushed, pending,
        size, List.length_cons, Counters.mk.injEq, true_and, and_true]
      omega
    sizes_eq := by
      have landed : build.lands store = true := by
        simp [lands, stage, succeeded, Except.isOk, Except.toBool]
      simp only [sizesAhead, weightsAhead, stage, pending, size]
      rw [landing, if_pos landed, queues.queued_eq]
      rfl }

/-- **What was foreseen for a build comes about in every step that does not lose it.** -/
theorem Steady.foreseen_of_move (steady : Steady σ build) (move : Move store build after next)
    (going : next.stage.isLost = false) : Foreseen store build next := by
  obtain ⟨pairs, queues⟩ := steady.queues
  cases move with
  | pause stage signals =>
      refine .quiet steady stage ?_ ?_
      · rw [signals, namesAhead_pause]
      · rw [signals, malformedAhead_pause]
  | skip stage signals nothing =>
      refine .quiet steady stage ?_ ?_
      · rw [signals, namesAhead_line_of_none nothing]
      · rw [signals, malformedAhead_line]
  | @ignore text name rest stage signals found short =>
      have weightless := Enumeration.weight_eq_zero short
      have notFull : build.writer.isFull = false :=
        decide_eq_false (Nat.not_le.mpr (steady.short stage))
      refine .take stage name ⟨pairs, queues⟩ ?_ ?_ rfl ?_ ?_ rfl rfl rfl ?_
      · rw [weightsAhead, signals, namesAhead_line_of_some found]
        rfl
      · rw [signals, malformedAhead_line]
      · rw [weightless]
        rfl
      · rw [weightless]
        rfl
      · rw [notFull]
        exact stage
  | @queue text name rest stage signals found long =>
      obtain ⟨pending, size, written, flushed⟩ :=
        Writer.counts_addAll (σ := σ) build.writer (build.enumeration.pairs name)
      rw [Enumeration.length_pairs] at pending
      refine .take stage name ⟨_, queues.addAll _⟩ ?_ ?_ rfl ?_ pending size written flushed rfl
      · rw [weightsAhead, signals, namesAhead_line_of_some found]
        rfl
      · rw [signals, malformedAhead_line]
      · rw [if_pos (Enumeration.weight_pos long)]
  | endFeed stage ended _ =>
      refine ⟨⟨⟨pairs, queues⟩, by simp, fun _ => ended⟩, ?_, ?_⟩
      · simp only [outlook, forecast, sizesAhead, weightsAhead, stage, ended, namesAhead_nil,
          List.map_nil]
      · simp [landing, lands, sizesAhead, weightsAhead, stage, ended]
  | flush stage succeeded => exact .flush steady stage succeeded
  | endEmpty stage empty =>
      have ended := steady.ended stage
      refine ⟨⟨⟨[], Writer.queues_close σ _⟩, by simp, by simp⟩, ?_, ?_⟩
      · simp only [outlook, stage, finish, counters, forecast, sizesAhead, weightsAhead, ended,
          empty, namesAhead_nil, malformedAhead_nil, batchSizes_nil]
        rfl
      · simp [landing, lands, sizesAhead, stage, empty, batchSizes_nil]
  | flushRest stage some succeeded =>
      obtain ⟨written, flushed⟩ := Writer.counts_flush_of_ok succeeded
      have ended := steady.ended stage
      have landed : build.lands store = true := by
        simp [lands, stage, some, succeeded, Except.isOk, Except.toBool]
      refine ⟨⟨⟨[], Writer.queues_close σ _⟩, by simp, by simp⟩, ?_, ?_⟩
      · simp only [outlook, stage, finish, counters, forecast, sizesAhead, weightsAhead, ended,
          some, namesAhead_nil, malformedAhead_nil, batchSizes_nil, if_false, written, flushed]
        rfl
      · rw [landing, if_pos landed, queues.queued_eq]
        simp [sizesAhead, stage, some, batchSizes_nil]
  | rest stage => exact ⟨steady, rfl, by simp [landing, lands, stage]⟩
  | failFlush _ _ => exact absurd (going.symm.trans (isLost_breakOff _ _)) Bool.false_ne_true
  | failFeed _ _ _ => exact absurd going.symm Bool.false_ne_true
  | failRest _ _ _ => exact absurd going.symm Bool.false_ne_true
  | close _ => exact absurd going.symm Bool.false_ne_true
  | closed _ => exact absurd going.symm Bool.false_ne_true

/-! ## From one step to a run -/

omit [Queueing σ] [CountsQueues σ] in
/-- Nothing is foreseen any more for a build that has succeeded. -/
theorem foreseen_of_built {counters : Counters} (steps : Nat) (store : σ)
    (built : build.stage = .finished (.built counters)) :
    build.outlook = counters ∧ flushSizes (states steps store build) = build.sizesAhead := by
  refine ⟨by simp only [outlook, built], ?_⟩
  rw [states_of_over (ending?_eq_some_iff.mpr built)]
  simp [flushSizes, lands, sizesAhead, built]

/-- **A build that succeeds reports what was foreseen, and flushes the batches that were
foreseen.** -/
theorem Steady.foreseen_of_runFor {counters : Counters} (steady : Steady σ build) (steps : Nat)
    (store : σ) (built : (runFor steps store build).2.1.stage = .finished (.built counters)) :
    build.outlook = counters ∧ flushSizes (states steps store build) = build.sizesAhead := by
  induction steps generalizing store build with
  | zero => exact foreseen_of_built 0 store built
  | succ steps inductionHypothesis =>
      cases ended : build.ending? with
      | some ending =>
          rw [runFor_of_over ended] at built
          exact foreseen_of_built _ store built
      | none =>
          simp only [runFor, ended] at built
          have going : (build.step store).2.1.stage.isLost = false := by
            cases lost : (build.step store).2.1.stage.isLost with
            | false => rfl
            | true =>
                have failed := isLost_runFor steps (build.step store).1 lost
                rw [built] at failed
                exact failed.symm
          have step := steady.foreseen_of_move (move_step store build) going
          obtain ⟨outlook, sizes⟩ := inductionHypothesis step.steady _ built
          refine ⟨step.outlook_eq.symm.trans outlook, ?_⟩
          simp only [states, ended]
          rw [flushSizes_cons, sizes, step.sizes_eq]

end Steps

end Build

/-! ## Whole builds -/

section Whole

variable {σ β : Type} [RankedStore σ β] [Queueing σ]

section Fresh

variable (enumeration : Enumeration) (feed : Feed) {writer : Writer β}

omit [RankedStore σ β] [Queueing σ] in
variable (writer) in
theorem weightsAhead_fresh :
    (Build.fresh enumeration writer feed).weightsAhead = feed.names.map weight := by
  rw [feed.names_eq]
  rfl

variable (σ) in
theorem steady_fresh (empty : writer.Queues σ []) :
    Build.Steady σ (Build.fresh enumeration writer feed) where
  queues := ⟨[], empty⟩
  short _ := empty.pending_eq ▸ writer.batchSize_pos
  ended := nofun

omit [RankedStore σ β] [Queueing σ] in
theorem sizesAhead_fresh (empty : writer.pending = 0) :
    (Build.fresh enumeration writer feed).sizesAhead =
      batchSizes writer.batchSize 0 (feed.names.map weight) := by
  rw [← weightsAhead_fresh enumeration feed writer, ← empty]
  rfl

end Fresh

variable [CountsQueues σ]

/-- **A build that succeeds has counted its feed, and has flushed the batches that its names
fill.** -/
theorem counts_of_built (enumeration : Enumeration) (store : σ) {batchSize : Int} (feed : Feed)
    {counters : Counters}
    (built : (buildIndex enumeration store batchSize feed).ending = .built counters) :
    let weights := feed.names.map weight
    let sizes := batchSizes batchSize.toNat 0 weights
    0 < batchSize.toNat ∧
      Build.flushSizes (buildStates enumeration store batchSize feed) = sizes ∧
      counters =
        { namesSeen := weights.length
          namesIndexed := weights.countP (0 < ·)
          pairsWritten := weights.sum
          batchesFlushed := sizes.length
          malformed := (feed.lines.drop 1).countP isMalformed } := by
  intro weights sizes
  cases opened : Writer.open? store batchSize with
  | error fault => simp only [buildIndex, Build.start, opened, reduceCtorEq] at built
  | ok writer =>
      obtain ⟨same, written, flushed⟩ := Writer.counts_of_open? opened
      have size : writer.batchSize = batchSize.toNat := by omega
      have positive : 0 < batchSize.toNat := size ▸ writer.batchSize_pos
      obtain ⟨other, again, empty⟩ := Writer.exists_open?_eq store (by omega : 1 ≤ batchSize)
      obtain rfl : writer = other := Except.ok.inj (opened.symm.trans again)
      have pending : writer.pending = 0 := empty.pending_eq
      have ended : ((Build.fresh enumeration writer feed).run store).2.1.stage = _ :=
        stage_run_of_open opened
      rw [built] at ended
      obtain ⟨outlook, flushes⟩ :=
        (steady_fresh σ enumeration feed empty).foreseen_of_runFor _ store ended
      have ahead := weightsAhead_fresh enumeration feed writer
      have gathered := sizesAhead_fresh enumeration feed pending
      rw [size] at gathered
      refine ⟨positive, ?_, ?_⟩
      · rw [buildStates_of_open opened]
        exact flushes.trans gathered
      · rw [← outlook, Build.outlook_of_isWriting rfl, Build.forecast, ahead, gathered]
        simp only [Build.fresh, written, flushed, pending, feed.malformedAhead_eq, Nat.zero_add,
          weights, sizes]

/-- **A build that succeeds reports what the lines of its feed come to.**  It has seen a name on
each line behind the first one that holds a row, and a malformed line is counted once.  It has
indexed the names that have keys and written one pair for each key.  It has flushed one batch for
each block into which the numbers of keys are cut, and one for the rest if there is anything in it.
No batch was empty, every batch but the last one had reached the batch size, and none of them went
beyond it by more than the keys of one name. -/
theorem counters_of_built (enumeration : Enumeration) (store : σ) {batchSize : Int} (feed : Feed)
    {counters : Counters}
    (built : (buildIndex enumeration store batchSize feed).ending = .built counters) :
    let rows := feed.lines.drop 1
    let names := rows.filterMap nameOn
    let weights := names.map weight
    let size := batchSize.toNat
    let sizes := Build.flushSizes (buildStates enumeration store batchSize feed)
    1 ≤ size ∧ feed.names = names ∧
      counters.namesSeen = rows.countP (fun row => (nameOn row).isSome) ∧
      counters.malformed = rows.countP isMalformed ∧
      counters.namesIndexed = weights.countP (0 < ·) ∧
      counters.pairsWritten = weights.sum ∧
      (∃ blocks rest, GreedyCut size weights blocks rest) ∧
      (∀ blocks rest, GreedyCut size weights blocks rest →
        counters.batchesFlushed = blocks.length + (if 0 < rest.sum then 1 else 0) ∧
          sizes = blocks.map List.sum ++ if rest.sum = 0 then [] else [rest.sum]) ∧
      (∀ count ∈ sizes.dropLast, size ≤ count) ∧
      ∀ count ∈ sizes, 1 ≤ count ∧ count ≤ size - 1 + weights.max?.getD 0 := by
  intro rows names weights size sizes
  obtain ⟨positive, flushes, counted⟩ := counts_of_built enumeration store feed built
  have same : feed.names = names := feed.names_eq_filterMap
  rw [same] at flushes counted
  refine ⟨positive, same, ?_, ?_, ?_, ?_, exists_greedyCut positive weights, ?_, ?_, ?_⟩
  · rw [counted, List.length_map, List.length_filterMap_eq_countP]
  · rw [counted]
  · rw [counted]
  · rw [counted]
  · intro blocks rest cut
    refine ⟨?_, flushes.trans cut.batchSizes_eq⟩
    rw [counted]
    exact cut.length_batchSizes
  · change ∀ count ∈ (Build.flushSizes _).dropLast, _
    rw [flushes]
    exact forall_mem_dropLast_batchSizes positive weights
  · change ∀ count ∈ Build.flushSizes _, _
    rw [flushes]
    exact forall_mem_batchSizes positive weights

end Whole

/-- A feed of four names, one of which has no keys, with a line between them that is no row. -/
def fourNames : Feed :=
  { signals := signalsOfLines
      ["\x7b\"rows\":[".toList, "\x7b\"id\":\"redis\"\x7d,".toList,
        "\x7b\"id\":\"abc\"\x7d,".toList, "redis".toList, "\x7b\"id\":\"reduce\"\x7d,".toList,
        "\x7b\"id\":\"redux\"\x7d".toList, "]\x7d".toList] }

/-- The third name fills the first batch, as far beyond its size as can be, and the fourth one is
left for the second batch. -/
theorem counters_of_built_fourNames :
    let store := MemoryStore.empty
    let counters : Counters := ⟨4, 3, 7, 2, 1⟩
    (buildIndex .ascending store 3 fourNames).ending = .built counters ∧
      GreedyCut 3 [2, 0, 3, 2] [[2, 0, 3]] [2] ∧
      counters.batchesFlushed = 1 + 1 ∧
      Build.flushSizes (buildStates .ascending store 3 fourNames) = [5, 2] := by
  intro store counters
  have built : (buildIndex .ascending store 3 fourNames).ending = .built counters := by
    decide +kernel
  have weights : ((fourNames.lines.drop 1).filterMap nameOn).map weight = [2, 0, 3, 2] := by
    decide +kernel
  have cut : GreedyCut 3 [2, 0, 3, 2] [[2, 0, 3]] [2] := ⟨rfl, by decide, by decide⟩
  obtain ⟨_, _, _, _, _, _, _, cuts, _, _⟩ := counters_of_built .ascending store fourNames built
  rw [weights] at cuts
  obtain ⟨batches, sizes⟩ := cuts _ _ cut
  exact ⟨built, cut, batches, sizes⟩

end Typeahead.Index
