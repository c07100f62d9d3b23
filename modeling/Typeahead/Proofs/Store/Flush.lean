import Mathlib.Data.List.Basic
import Typeahead.Store.Server

/-!
# What a flush leaves on a server

A command fails only on a key that holds a text, and no command makes a text or
removes one.  A transaction therefore applies the commands that meet no text, in
order, and reports the first of the others (`runAll_applied`, `fst_runAll`).

So a flush that succeeds has applied all that was queued, and a flush that fails
on a server out of reach has applied nothing.  A flush that fails on a text has
applied everything else (`send_applies_all_that_meets_no_text`): it is neither
all nor nothing (`send_applies_some_of_twoAdditions`).
-/

namespace Typeahead.Store

set_option autoImplicit false

/-- What the keys of a server hold. -/
abbrev Holdings : Type := Std.ExtTreeMap String Holding

namespace ServerStore

/-- A text stands under the key, so that nothing can be added there. -/
def holdsText (holdings : Holdings) (key : String) : Bool :=
  match holdings[key]? with
  | some (.text _) => true
  | _ => false

/-- All of the additions have been applied, one after another. -/
inductive Applied : Holdings → List Addition → Holdings → Prop where
  | nil (holdings : Holdings) : Applied holdings [] holdings
  | cons {before between after : Holdings} {addition : Addition} {additions : List Addition}
      (first : insert? before addition = some between)
      (others : Applied between additions after) : Applied before (addition :: additions) after

/-! ## One command -/

/-- **A command fails exactly on a text.** -/
theorem insert?_eq_none_iff {holdings : Holdings} {addition : Addition} :
    insert? holdings addition = none ↔ holdsText holdings addition.key = true := by
  rw [insert?, holdsText]
  cases holdings[addition.key]? with
  | none => simp
  | some holding =>
      cases holding with
      | set members => simp
      | text value => simp

theorem holdsText_eq_false_of_insert? {before after : Holdings} {addition : Addition}
    (inserted : insert? before addition = some after) :
    holdsText before addition.key = false := by
  rw [← Bool.not_eq_true, ← insert?_eq_none_iff, inserted]
  exact Option.some_ne_none after

/-- A command writes a set under its own key and leaves the other keys alone. -/
theorem exists_set_of_insert? {before after : Holdings} {addition : Addition}
    (inserted : insert? before addition = some after) :
    ∃ members, after = before.insert addition.key (.set members) := by
  rw [insert?] at inserted
  split at inserted
  next => exact ⟨_, (Option.some.inj inserted).symm⟩
  next => exact ⟨_, (Option.some.inj inserted).symm⟩
  next => cases inserted

/-- What a command does not touch stays as it is. -/
theorem getElem?_of_insert? {before after : Holdings} {addition : Addition}
    (inserted : insert? before addition = some after) {key : String}
    (other : addition.key ≠ key) : after[key]? = before[key]? := by
  obtain ⟨members, rfl⟩ := exists_set_of_insert? inserted
  rw [Std.ExtTreeMap.getElem?_insert, if_neg (mt Std.compare_eq_iff_eq.mp other)]

/-- No command makes a text or removes one. -/
theorem holdsText_of_insert? {before after : Holdings} {addition : Addition}
    (inserted : insert? before addition = some after) (key : String) :
    holdsText after key = holdsText before key := by
  by_cases same : addition.key = key
  · have noText := holdsText_eq_false_of_insert? inserted
    obtain ⟨members, rfl⟩ := exists_set_of_insert? inserted
    rw [← same, noText, holdsText, Std.ExtTreeMap.getElem?_insert_self]
  · rw [holdsText, holdsText, getElem?_of_insert? inserted same]

/-! ## Transactions -/

/-- The text of a key is still there when additions have been applied. -/
theorem Applied.getElem?_of_holdsText {before after : Holdings} {additions : List Addition}
    (applied : Applied before additions after) {key : String}
    (text : holdsText before key = true) : after[key]? = before[key]? := by
  induction applied with
  | nil holdings => rfl
  | cons first others inductionHypothesis =>
      rename_i before between after addition additions
      have other : addition.key ≠ key := by
        rintro rfl
        rw [insert?_eq_none_iff.mpr text] at first
        cases first
      have kept : holdsText between key = true := by rw [holdsText_of_insert? first, text]
      rw [inductionHypothesis kept, getElem?_of_insert? first other]

/-- **A transaction applies the additions that meet no text, in order.** -/
theorem runAll_applied (holdings : Holdings) (number : Nat) (additions : List Addition) :
    Applied holdings (additions.filter fun addition => !holdsText holdings addition.key)
      (runAll holdings number additions).2 := by
  induction additions generalizing holdings number with
  | nil => exact .nil holdings
  | cons addition additions inductionHypothesis =>
      cases inserted : insert? holdings addition with
      | none =>
          have text := insert?_eq_none_iff.mp inserted
          simp only [runAll, inserted, List.filter_cons, text]
          exact inductionHypothesis holdings (number + 1)
      | some changed =>
          have noText := holdsText_eq_false_of_insert? inserted
          have others := inductionHypothesis changed (number + 1)
          simp only [holdsText_of_insert? inserted] at others
          simp only [runAll, inserted, List.filter_cons, noText]
          exact .cons inserted others

/-- **A transaction reports the first addition that meets a text, with its number.** -/
theorem fst_runAll (holdings : Holdings) (number : Nat) (additions : List Addition) :
    (runAll holdings number additions).1 =
      ((additions.zipIdx number).find? fun numbered => holdsText holdings numbered.1.key).map
        fun numbered => .wrongKind numbered.2 numbered.1 := by
  induction additions generalizing holdings number with
  | nil => rfl
  | cons addition additions inductionHypothesis =>
      rw [List.zipIdx_cons, List.find?_cons]
      cases inserted : insert? holdings addition with
      | none =>
          have text := insert?_eq_none_iff.mp inserted
          simp only [runAll, inserted, text, Option.map_some]
      | some changed =>
          have noText := holdsText_eq_false_of_insert? inserted
          have others := inductionHypothesis changed (number + 1)
          simp only [holdsText_of_insert? inserted] at others
          simp only [runAll, inserted, noText, others]

/-- A transaction without a fault met no text. -/
theorem fst_runAll_eq_none_iff {holdings : Holdings} {number : Nat} {additions : List Addition} :
    (runAll holdings number additions).1 = none ↔
      ∀ addition ∈ additions, holdsText holdings addition.key = false := by
  rw [fst_runAll, Option.map_eq_none_iff, List.find?_eq_none]
  constructor
  · intro noText addition member
    obtain ⟨place, inside, rfl⟩ := List.getElem_of_mem member
    have numbered : (additions[place], number + place) ∈ additions.zipIdx number :=
      List.mk_add_mem_zipIdx_iff_getElem?.mpr (List.getElem?_eq_getElem inside)
    exact Bool.not_eq_true _ ▸ noText _ numbered
  · rintro noText ⟨addition, place⟩ member
    rw [noText addition (List.fst_mem_of_mem_zipIdx member)]
    exact Bool.false_ne_true

end ServerStore

/-! ## Flushes -/

namespace ServerBatch

/-- The batch that a client has filled with additions. -/
def filled (additions : List Addition) : ServerBatch :=
  additions.foldl (RankedStore.add ServerStore) {}

/-- Additions are queued in order, and each of them is counted. -/
theorem foldl_add (batch : ServerBatch) (additions : List Addition) :
    additions.foldl (RankedStore.add ServerStore) batch =
      ⟨batch.commands ++ additions, batch.count + additions.length⟩ := by
  induction additions generalizing batch with
  | nil => simp
  | cons addition additions inductionHypothesis =>
      have counted : batch.count + 1 + additions.length =
          batch.count + (addition :: additions).length := by
        rw [List.length_cons]
        omega
      rw [List.foldl_cons, inductionHypothesis, ← counted, List.append_cons]
      rfl

theorem filled_eq (additions : List Addition) :
    filled additions = ⟨additions, additions.length⟩ := by
  rw [filled, foldl_add]
  exact congrArg (ServerBatch.mk additions) (Nat.zero_add _)

end ServerBatch

namespace ServerStore

theorem execute_of_empty (server : ServerStore) :
    RankedStore.execute server (ServerBatch.filled []) = (.ok 0, server, {}) := rfl

theorem execute_of_outage {server : ServerStore} {reason : String}
    (outage : server.outage = some reason) {additions : List Addition} (queued : additions ≠ []) :
    RankedStore.execute server (ServerBatch.filled additions) =
      (.error (.unreachable reason), server, {}) := by
  have counted : additions.length ≠ 0 := mt List.length_eq_zero_iff.mp queued
  rw [ServerBatch.filled_eq]
  simp only [RankedStore.execute, send, if_neg counted, outage]

theorem execute_of_reachable {server : ServerStore} (reachable : server.outage = none)
    {additions : List Addition} (queued : additions ≠ []) :
    RankedStore.execute server (ServerBatch.filled additions) =
      (match (runAll server.holdings 1 additions).1 with
        | some fault => .error fault
        | none => .ok additions.length,
        { server with holdings := (runAll server.holdings 1 additions).2 }, {}) := by
  have counted : additions.length ≠ 0 := mt List.length_eq_zero_iff.mp queued
  obtain ⟨holdings, outage⟩ := server
  obtain rfl : outage = none := reachable
  rw [ServerBatch.filled_eq]
  exact if_neg counted

/-- What becomes of additions that are flushed to a server. -/
inductive Flushed (server : ServerStore) (additions : List Addition) :
    Except FlushFault Nat → Holdings → Prop where
  /-- all of them are applied -/
  | all {after : Holdings} (applied : Applied server.holdings additions after)
      (answered : additions = [] ∨ server.outage = none ∧
        ∀ addition ∈ additions, holdsText server.holdings addition.key = false) :
      Flushed server additions (.ok additions.length) after
  /-- the server is out of reach, and nothing is applied -/
  | nothing {reason : String} (queued : additions ≠ []) (outage : server.outage = some reason) :
      Flushed server additions (.error (.unreachable reason)) server.holdings
  /-- the first addition that meets a text is reported, and those that meet none are applied -/
  | allButTexts {after : Holdings} {addition : Addition} {number : Nat}
      (reachable : server.outage = none)
      (first : (additions.zipIdx 1).find?
        (fun numbered => holdsText server.holdings numbered.1.key) = some (addition, number))
      (applied : Applied server.holdings
        (additions.filter fun addition => !holdsText server.holdings addition.key) after) :
      Flushed server additions (.error (.wrongKind number addition)) after

/-- **Every flush has one of the three outcomes.** -/
theorem flushed_execute (server : ServerStore) (additions : List Addition) :
    Flushed server additions (RankedStore.execute server (ServerBatch.filled additions)).1
      (RankedStore.execute server (ServerBatch.filled additions)).2.1.holdings := by
  by_cases empty : additions = []
  · rw [empty, execute_of_empty]
    exact .all (.nil server.holdings) (.inl rfl)
  · cases outage : server.outage with
    | some reason =>
        rw [execute_of_outage outage empty]
        exact .nothing empty outage
    | none =>
        rw [execute_of_reachable outage empty]
        have applied := runAll_applied server.holdings 1 additions
        cases fault : (runAll server.holdings 1 additions).1 with
        | none =>
            have noText := fst_runAll_eq_none_iff.mp fault
            have kept : (additions.filter fun addition =>
                !holdsText server.holdings addition.key) = additions :=
              List.filter_eq_self.mpr fun addition member => by rw [noText addition member]; rfl
            rw [kept] at applied
            exact .all applied (.inr ⟨outage, noText⟩)
        | some reported =>
            rw [fst_runAll, Option.map_eq_some_iff] at fault
            obtain ⟨⟨addition, number⟩, first, rfl⟩ := fault
            exact .allButTexts outage first applied

/-- Whatever becomes of a flush, its batch can be filled afresh. -/
theorem batch_execute (server : ServerStore) (additions : List Addition) :
    (RankedStore.execute server (ServerBatch.filled additions)).2.2 = ServerBatch.filled [] := by
  by_cases empty : additions = []
  · rw [empty, execute_of_empty]
    rfl
  · cases outage : server.outage with
    | some reason =>
        rw [execute_of_outage outage empty]
        rfl
    | none =>
        rw [execute_of_reachable outage empty]
        rfl

/-- **A flush applies all that is queued, or all but what meets a text, or nothing where the server
is out of reach.**  It succeeds exactly when no addition meets a text on a server in reach, or
when nothing is queued.  Texts of other clients stay as they are, and the batch is left empty. -/
theorem send_applies_all_that_meets_no_text (server : ServerStore) (additions : List Addition) :
    let run := RankedStore.execute server (ServerBatch.filled additions)
    (∀ count, run.1 = .ok count →
      count = additions.length ∧ Applied server.holdings additions run.2.1.holdings) ∧
    (∀ fault, run.1 = .error fault →
      (∃ reason, server.outage = some reason ∧ fault = .unreachable reason ∧
        run.2.1.holdings = server.holdings) ∨
      (∃ number addition, server.outage = none ∧ fault = .wrongKind number addition ∧
        (additions.zipIdx 1).find? (fun numbered => holdsText server.holdings numbered.1.key) =
          some (addition, number) ∧
        Applied server.holdings
          (additions.filter fun addition => !holdsText server.holdings addition.key)
          run.2.1.holdings)) ∧
    ((∃ count, run.1 = .ok count) ↔
      additions = [] ∨ server.outage = none ∧
        ∀ addition ∈ additions, holdsText server.holdings addition.key = false) ∧
    (∀ key, holdsText server.holdings key = true →
      run.2.1.holdings[key]? = server.holdings[key]?) ∧
    run.2.2 = ServerBatch.filled [] := by
  intro run
  have emptied : run.2.2 = ServerBatch.filled [] := batch_execute server additions
  have flushed := flushed_execute server additions
  change Flushed server additions run.1 run.2.1.holdings at flushed
  generalize run.1 = outcome at flushed
  generalize run.2.1.holdings = after at flushed
  cases flushed with
  | all applied answered =>
      refine ⟨?_, ?_, ?_, ?_, emptied⟩
      · intro count returned
        cases returned
        exact ⟨rfl, applied⟩
      · intro fault failed
        cases failed
      · exact ⟨fun _ => answered, fun _ => ⟨_, rfl⟩⟩
      · intro key text
        exact applied.getElem?_of_holdsText text
  | nothing queued outage =>
      refine ⟨?_, ?_, ?_, ?_, emptied⟩
      · intro count returned
        cases returned
      · intro fault failed
        cases failed
        exact .inl ⟨_, outage, rfl, rfl⟩
      · constructor
        · rintro ⟨count, returned⟩
          cases returned
        · rintro (empty | ⟨reachable, _⟩)
          · exact absurd empty queued
          · rw [outage] at reachable
            cases reachable
      · intro key _
        rfl
  | allButTexts reachable first applied =>
      refine ⟨?_, ?_, ?_, ?_, emptied⟩
      · intro count returned
        cases returned
      · intro fault failed
        cases failed
        exact .inr ⟨_, _, reachable, rfl, first, applied⟩
      · constructor
        · rintro ⟨count, returned⟩
          cases returned
        · intro answered
          have met := List.mem_of_find?_eq_some first
          have text := List.find?_some first
          rcases answered with empty | ⟨_, noText⟩
          · rw [empty] at met
            cases met
          · rw [noText _ (List.fst_mem_of_mem_zipIdx met)] at text
            cases text
      · intro key text
        exact applied.getElem?_of_holdsText text

/-- A server on which another client has put a text under the second of two keys. -/
def shared : ServerStore := empty.setText "redi" "another client's"

/-- Two additions, the second of which meets the text. -/
def twoAdditions : List Addition := [⟨"red", "redis", .zero⟩, ⟨"redi", "redis", .zero⟩]

/-- **A flush that fails can leave a part of its additions on the server.** -/
theorem send_applies_some_of_twoAdditions :
    let run := RankedStore.execute shared (ServerBatch.filled twoAdditions)
    run.1 = .error (.wrongKind 2 ⟨"redi", "redis", .zero⟩) ∧
      RankedStore.range shared "red" 0 (-1) = .ok [] ∧
      RankedStore.range run.2.1 "red" 0 (-1) = .ok ["redis"] := by
  decide +kernel

end ServerStore

end Typeahead.Store
