import Typeahead.Proofs.Command.Building
import Typeahead.Proofs.Json.Reading
import Typeahead.Proofs.Json.Writing

/-!
# What a single build reports is true

A single build is run on a store of any kind (`AnyStore`), and what has become of
the store is kept beside the report (`visit`).  What the run comes to is said
apart from its steps (`Ran`): the settings are loaded, the store that they choose
answers a ping, and the build of the catalog on this store comes to its end.  The
code, the output and the store all tell the same about it (`Truthful`), whatever
the catalog and the store are (**`build_reports_truth`**).
-/

namespace Typeahead.Command

open Typeahead.Catalog Typeahead.Config Typeahead.Index Typeahead.Json Typeahead.Schedule
open Typeahead.Service Typeahead.Store

set_option autoImplicit false

/-! ## Runs with their stores -/

/-- A run of a single build: its report, and the store that was made for it with the number of times
it has been closed, if a store was made. -/
structure Visit where
  report : Report
  made : Option (AnyStore × Nat) := none

/-- A run of a single build on a store that was made for it. -/
def visitOf {store : AnyStore} (run : StoreRun store.Held) : Visit where
  report := run.report
  made := some (⟨run.store⟩, run.closings)

/-- Runs a single build on the store that is made for the choice of the settings. -/
def visit (make : StoreChoice → AnyStore) (context : Context) (overrides : List Assignment)
    (steps : Nat) : Option Visit :=
  match load context.surroundings overrides with
  | .error fault => some { report := reportOfLoad fault }
  | .ok settings =>
      match settings.storeChoice with
      | .error fault => some { report := { code := .error (.address fault) } }
      | .ok choice =>
          (buildOnce steps settings context.world (make choice).held context.now).map visitOf

/-- **The command runs a single build on the stores of its context.** -/
theorem run_eq_visit {invocation : Invocation} (builds : invocation.command = .build)
    (context : Context) (steps : Nat) :
    invocation.run context steps =
      (visit context.stores context invocation.overrides steps).map Visit.report := by
  cases loaded : load context.surroundings invocation.overrides with
  | error fault => simp only [Invocation.run, visit, loaded, Option.map_some]
  | ok settings =>
    cases chosen : settings.storeChoice with
    | error fault => simp only [Invocation.run, visit, loaded, chosen, Option.map_some]
    | ok choice =>
      rw [run_of_choice builds loaded chosen]
      simp only [visit, loaded, chosen, Option.map_map]
      rfl

/-! ## What a run comes to -/

/-- The faults that are expected of catalogs and stores: the catalog cannot be fetched, or a flush
fails. -/
inductive Expected : RunFault → Prop where
  | fetch {fault : SourceFault} (fetched : fault.isFetch = true) : Expected (.build (.source fault))
  | flush (fault : FlushFault) : Expected (.build (.flush fault))

theorem isExpected_iff {fault : RunFault} : isExpected fault = true ↔ Expected fault := by
  constructor
  · intro expected
    unfold isExpected at expected
    split at expected
    next fault => exact .fetch expected
    next fault => exact .flush fault
    next => exact nomatch expected
  · rintro (fetched | fault)
    · exact fetched
    · rfl

/-- A single build of the command comes to its end: what is left of the store that was made, and the
counters or the fault. -/
inductive Ran (make : StoreChoice → AnyStore) (context : Context) (overrides : List Assignment) :
    AnyStore → Except RunFault Counters → Prop where
  | run {settings : Settings} {choice : StoreChoice}
      (loaded : load context.surroundings overrides = .ok settings)
      (chosen : settings.storeChoice = .ok choice) {ready after : (make choice).Held}
      (answers : Answers (make choice).held ready) {outcome : Except RunFault Counters}
      (comes : ComesTo settings context.world ready after outcome) :
      Ran make context overrides ⟨after⟩ outcome

variable {make : StoreChoice → AnyStore} {context : Context} {overrides : List Assignment}

theorem Ran.unique {first second : AnyStore} {outcome other : Except RunFault Counters}
    (one : Ran make context overrides first outcome)
    (two : Ran make context overrides second other) : first = second ∧ outcome = other := by
  obtain ⟨loaded, chosen, answers, comes⟩ := one
  obtain ⟨reloaded, rechosen, again, recomes⟩ := two
  obtain rfl := Except.ok.inj (loaded.symm.trans reloaded)
  obtain rfl := Except.ok.inj (chosen.symm.trans rechosen)
  obtain rfl := answers.unique again
  obtain ⟨rfl, rfl⟩ := comesTo_iff.mp comes
  obtain ⟨rfl, rfl⟩ := comesTo_iff.mp recomes
  exact ⟨rfl, rfl⟩

/-! ## Reports that are true -/

/-- The text of the counters is the text of an object. -/
theorem jsonText_counters {limits : Limits} (deep : 1 ≤ limits.depth) (counters : Counters)
    (few : (exitOf (some counters)).output.length ≤ limits.integerDigits) :
    JsonText limits (exitOf (some counters)).output.toList (.object (counterMembers counters)) := by
  have printed : (exitOf (some counters)).output.toList =
      (indentedObject (counterMembers counters)).toList ++ ['\n'] := String.toList_append
  have numbers : ∀ member ∈ counterMembers counters, ∃ number : Nat,
      member.2 = .integer number := by
    simp [counterMembers]
  rw [printed]
  refine jsonText_indentedObject deep (fun member listed => ?_) (fun member listed => ?_) ?_
  · obtain ⟨number, same⟩ := numbers member listed
    have inside := length_writeValue_le listed
    rw [same] at inside ⊢
    refine valueText_writeNumber number (Nat.le_trans ?_ few)
    rw [← String.length_toList, printed, List.length_append]
    exact Nat.le_add_right_of_le inside
  · obtain ⟨number, same⟩ := numbers member listed
    rw [same]
    rfl
  · simp [Spaces]

/-- What the report about an attempt to build tells of its outcome. -/
theorem report_of_outcome (outcome : Except RunFault Counters) (notices : List Notice)
    {report : Report} (reported : reportOfExit (exitAfter outcome) notices = report) :
    (report.code = .ok 0 ↔ ∃ counters, outcome = .ok counters) ∧
      (report.code = .ok 1 ↔ ∃ fault, outcome = .error fault ∧ Expected fault) ∧
      report.code ≠ .ok 2 ∧ (report.code ≠ .ok 0 → report.output = "") := by
  subst reported
  cases outcome with
  | ok counters => simp [exitAfter, exitOf, reportOfExit]
  | error fault =>
    cases expected : isExpected fault with
    | true => simp [exitAfter, exitOf, reportOfExit, expected, ← isExpected_iff]
    | false => simp [exitAfter, reportOfExit, expected, ← isExpected_iff]

/-- What a run of a single build reports, and what it has done with its store, is the truth about
it. -/
structure Truthful (make : StoreChoice → AnyStore) (context : Context)
    (overrides : List Assignment) (result : Visit) : Prop where
  /-- the code for a bad configuration tells that the configuration is bad -/
  refused : result.report.code = .ok 2 ↔
    ∃ fault, load context.surroundings overrides = .error fault ∧ fault.isConfiguration = true
  /-- then no store was made -/
  unmade : result.report.code = .ok 2 → result.made = none
  /-- a store that was made has been closed once, also where a fault escapes -/
  closed : ∀ store closings, result.made = some (store, closings) → closings = 1
  /-- the code for success tells that the build succeeded -/
  succeeded : result.report.code = .ok 0 ↔
    ∃ after counters, Ran make context overrides after (.ok counters)
  /-- then the counters of the build are printed as an object -/
  printed : ∀ after counters, Ran make context overrides after (.ok counters) →
    ∀ limits : Limits, 1 ≤ limits.depth → result.report.output.length ≤ limits.integerDigits →
      read limits result.report.output.toList = .ok (.object (counterMembers counters))
  /-- otherwise nothing is printed -/
  silent : result.report.code ≠ .ok 0 → result.report.output = ""
  /-- the code for a failure tells that an expected fault was raised -/
  failed : result.report.code = .ok 1 ↔
    ∃ after fault, Ran make context overrides after (.error fault) ∧ Expected fault
  /-- the store is left as the build has left it, whether it succeeded or was broken off -/
  left : ∀ after outcome, Ran make context overrides after outcome →
    result.made = some (after, 1)
  /-- a store is made only to be built in -/
  worked : ∀ store closings, result.made = some (store, closings) →
    ∃ outcome, Ran make context overrides store outcome

/-- A run without a store tells the truth if it reports what kept the store from being made. -/
theorem truthful_of_unmade {report : Report}
    (nothing : ∀ after outcome, ¬ Ran make context overrides after outcome)
    (code : report.code = .ok 2 ↔ ∃ fault, load context.surroundings overrides = .error fault ∧
      fault.isConfiguration = true)
    (other : report.code ≠ .ok 0 ∧ report.code ≠ .ok 1) (quiet : report.output = "") :
    Truthful make context overrides { report } where
  refused := code
  unmade _ := rfl
  closed := nofun
  succeeded := ⟨fun zero => absurd zero other.1, fun ⟨_, _, ran⟩ => absurd ran (nothing _ _)⟩
  printed _ _ ran := absurd ran (nothing _ _)
  silent _ := quiet
  failed := ⟨fun one => absurd one other.2, fun ⟨_, _, ran, _⟩ => absurd ran (nothing _ _)⟩
  left _ _ ran := absurd ran (nothing _ _)
  worked := nofun

/-- A run that has come to its end tells the truth if it reports its end. -/
theorem truthful_of_ran {after : AnyStore} {outcome : Except RunFault Counters}
    (ran : Ran make context overrides after outcome) (notices : List Notice) :
    Truthful make context overrides
      { report := reportOfExit (exitAfter outcome) notices, made := some (after, 1) } := by
  obtain ⟨zero, one, notTwo, quiet⟩ := report_of_outcome outcome notices rfl
  refine
    { refused := ⟨fun two => absurd two notTwo, ?_⟩
      unmade := fun two => absurd two notTwo
      closed := ?_
      succeeded := zero.trans ?_
      printed := fun other counters again limits deep few => ?_
      silent := quiet
      failed := one.trans ?_
      left := fun other outcome again => ?_
      worked := ?_ }
  · rintro ⟨fault, failed, -⟩
    obtain ⟨loaded, -, -, -⟩ := ran
    exact nomatch loaded.symm.trans failed
  · rintro _ _ ⟨⟩
    rfl
  · constructor
    · rintro ⟨counters, rfl⟩
      exact ⟨after, counters, ran⟩
    · rintro ⟨other, counters, again⟩
      exact ⟨counters, (ran.unique again).2⟩
  · obtain ⟨-, rfl⟩ := ran.unique again
    exact read_eq_ok_iff.mpr (jsonText_counters deep counters few)
  · constructor
    · rintro ⟨fault, rfl, expected⟩
      exact ⟨after, fault, ran, expected⟩
    · rintro ⟨other, fault, again, expected⟩
      exact ⟨fault, (ran.unique again).2, expected⟩
  · obtain ⟨rfl, -⟩ := ran.unique again
    rfl
  · rintro _ _ ⟨⟩
    exact ⟨outcome, ran⟩

/-- A report about settings that could not be loaded has a code of its own. -/
theorem truthful_of_load {fault : LoadFault}
    (failed : load context.surroundings overrides = .error fault) :
    Truthful make context overrides { report := reportOfLoad fault } := by
  have nothing : ∀ after outcome, ¬ Ran make context overrides after outcome := by
    rintro after outcome ⟨loaded, -, -, -⟩
    exact nomatch loaded.symm.trans failed
  cases expected : fault.isConfiguration with
  | true =>
    have report : reportOfLoad fault =
        { code := .ok 2, errors := "Error: " ++ fault.message ++ "\n" } := if_pos expected
    rw [report]
    exact truthful_of_unmade nothing ⟨fun _ => ⟨fault, failed, expected⟩, fun _ => rfl⟩
      ⟨nofun, nofun⟩ rfl
  | false =>
    have report : reportOfLoad fault = { code := .error (.settings fault) } :=
      if_neg (by rw [expected]; exact Bool.false_ne_true)
    rw [report]
    refine truthful_of_unmade nothing ⟨nofun, ?_⟩ ⟨nofun, nofun⟩ rfl
    rintro ⟨other, same, isConfiguration⟩
    obtain rfl := Except.error.inj (failed.symm.trans same)
    exact nomatch expected.symm.trans isConfiguration

/-- **A run of a single build that comes to its end reports the truth.** -/
theorem truthful_of_visit {steps : Nat} {result : Visit}
    (ended : visit make context overrides steps = some result) :
    Truthful make context overrides result := by
  cases loaded : load context.surroundings overrides with
  | error fault =>
    simp only [visit, loaded, Option.some.injEq] at ended
    rw [← ended]
    exact truthful_of_load loaded
  | ok settings =>
    cases chosen : settings.storeChoice with
    | error fault =>
      simp only [visit, loaded, chosen, Option.some.injEq] at ended
      rw [← ended]
      refine truthful_of_unmade ?_ ⟨nofun, ?_⟩ ⟨nofun, nofun⟩ rfl
      · rintro after outcome ⟨reloaded, rechosen, -, -⟩
        obtain rfl := Except.ok.inj (loaded.symm.trans reloaded)
        exact nomatch chosen.symm.trans rechosen
      · rintro ⟨other, failed, -⟩
        exact nomatch loaded.symm.trans failed
    | ok choice =>
      simp only [visit, loaded, chosen] at ended
      obtain ⟨run, built, rfl⟩ := Option.map_eq_some_iff.mp ended
      obtain ⟨ready, outcome, answers, comes, reports⟩ := exists_reports_of_buildOnce built
      have truthful := truthful_of_ran (.run loaded chosen answers comes) run.report.notices
      rw [← reports.exit] at truthful
      rw [visitOf, reports.closed]
      exact truthful

/-- A run of a single build ends if the store that is made for it answers. -/
theorem exists_visit
    (answer : ∀ settings choice, load context.surroundings overrides = .ok settings →
      settings.storeChoice = .ok choice → ∃ ready, Answers (make choice).held ready) :
    ∃ enough, ∀ steps, enough ≤ steps → visit make context overrides steps ≠ none := by
  cases loaded : load context.surroundings overrides with
  | error fault =>
    refine ⟨0, fun steps _ => ?_⟩
    simp only [visit, loaded, ne_eq, reduceCtorEq, not_false_eq_true]
  | ok settings =>
    cases chosen : settings.storeChoice with
    | error fault =>
      refine ⟨0, fun steps _ => ?_⟩
      simp only [visit, loaded, chosen, ne_eq, reduceCtorEq, not_false_eq_true]
    | ok choice =>
      obtain ⟨ready, answers⟩ := answer settings choice loaded chosen
      obtain ⟨enough, ends⟩ := exists_buildOnce settings context.world answers context.now
      refine ⟨enough, fun steps many => ?_⟩
      simp only [visit, loaded, chosen, ne_eq, Option.map_eq_none_iff]
      exact ends steps many

/-- **A single build reports the truth.**  For every environment, every catalog and every behaviour
of the store, a run that comes to its end gives the code for a bad configuration exactly if loading
the settings found one, and then no store was made; a store that was made has been closed once,
whether the program exits or a fault escapes; the code for success is given exactly if the build
succeeded, and only then are the counters of the build printed, as an object; the code for a failure
is given exactly if a fault was raised that is expected, and the store is left as the build left it.
A store that does not answer yet is waited for, which raises nothing, and the run ends if the store
answers at last. -/
theorem build_reports_truth (invocation : Invocation) (builds : invocation.command = .build)
    (context : Context) :
    (∀ steps, invocation.run context steps =
      (visit context.stores context invocation.overrides steps).map Visit.report) ∧
    ∀ make : StoreChoice → AnyStore,
      (∀ steps result, visit make context invocation.overrides steps = some result →
        Truthful make context invocation.overrides result) ∧
      ((∀ settings choice, load context.surroundings invocation.overrides = .ok settings →
          settings.storeChoice = .ok choice → ∃ ready, Answers (make choice).held ready) →
        ∃ enough, ∀ steps, enough ≤ steps →
          visit make context invocation.overrides steps ≠ none) :=
  ⟨run_eq_visit builds context, fun _ => ⟨fun _ _ => truthful_of_visit, exists_visit⟩⟩

/-- A context with a catalog of one name and one malformed line. -/
def oneNameContext : Context where
  surroundings :=
    { homes := ⟨"/home", []⟩
      files :=
        { files := [(["catalog"],
            Text.encode "[\n\x7b\"id\":\"redis\"\x7d,\noops\n]\x7d".toList)] } }

/-- The counters of a build of this catalog. -/
def oneNameCounters : Counters := ⟨1, 1, 2, 1, 1⟩

theorem build_reports_truth_oneName :
    Invocation.ofWords ["--catalog-url", "/catalog", "--store-backend", "memory", "build"] =
        .ok (buildInMemory "/catalog") ∧
      (buildInMemory "/catalog").command = .build ∧
      ∃ steps report, (buildInMemory "/catalog").run oneNameContext steps = some report ∧
        report.code = .ok 0 ∧
        read ⟨1, report.output.length, none⟩ report.output.toList =
          .ok (.object (counterMembers oneNameCounters)) := by
  have accepted : Invocation.ofWords
      ["--catalog-url", "/catalog", "--store-backend", "memory", "build"] =
        .ok (buildInMemory "/catalog") := eq_ok_of_toOption (by decide +kernel)
  have loaded : load oneNameContext.surroundings (buildInMemory "/catalog").overrides =
      .ok { storeBackend := .memory, catalog := "/catalog" } :=
    eq_ok_of_toOption (by decide +kernel)
  have located : Location.ofText oneNameContext.world.homes "/catalog" =
      .ok (.file ⟨1, ["catalog"]⟩) := eq_ok_of_toOption (by decide +kernel)
  have answers : Answers MemoryStore.empty MemoryStore.empty := .now rfl
  have ending : (buildIndex Enumeration.ascending MemoryStore.empty 1000
      (Location.feed oneNameContext.world (.file ⟨1, ["catalog"]⟩))).ending =
        .built oneNameCounters := by decide +kernel
  have ran : Ran oneNameContext.stores oneNameContext (buildInMemory "/catalog").overrides _
      (.ok oneNameCounters) := .run loaded rfl answers (.built located rfl ending)
  obtain ⟨runs, reports⟩ := build_reports_truth (buildInMemory "/catalog") rfl oneNameContext
  obtain ⟨truthful, ends⟩ := reports oneNameContext.stores
  have answer : ∀ settings choice,
      load oneNameContext.surroundings (buildInMemory "/catalog").overrides = .ok settings →
      settings.storeChoice = .ok choice →
        ∃ ready, Answers (oneNameContext.stores choice).held ready := by
    intro settings choice reloaded rechosen
    obtain rfl := Except.ok.inj (loaded.symm.trans reloaded)
    obtain rfl : StoreChoice.memory = choice := Except.ok.inj rechosen
    exact ⟨_, answers⟩
  obtain ⟨enough, ended⟩ := ends answer
  obtain ⟨result, visited⟩ := Option.ne_none_iff_exists'.mp (ended enough (Nat.le_refl enough))
  have truth := truthful enough result visited
  refine ⟨accepted, rfl, enough, result.report, ?_, truth.succeeded.mpr ⟨_, _, ran⟩,
    truth.printed _ _ ran ⟨1, result.report.output.length, none⟩ (Nat.le_refl 1) (Nat.le_refl _)⟩
  rw [runs, visited]
  rfl

end Typeahead.Command
