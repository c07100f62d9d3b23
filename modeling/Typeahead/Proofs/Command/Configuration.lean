import Typeahead.Command.Run
import Typeahead.Proofs.Config.Precedence

/-!
# How bad configurations end

Loading the settings fails because the file is missing or is no YAML text, or
because of what the sources give; all this is reported, with an exit code of its
own.  But a file that is there and cannot be used is not (`Surroundings.Unusable`):
its fault escapes from loading, and from every command, whatever reader of YAML
there is (**`run_of_badConfiguration`**).
-/

namespace Typeahead.Command

open Typeahead.Config Typeahead.Files Typeahead.Text

set_option autoImplicit false

variable {surroundings : Surroundings} {fault : LoadFault}

theorem load_of_fileEntries (failed : surroundings.fileEntries true = .error fault)
    {overrides : List Assignment} (plain : NoParameters overrides) :
    load surroundings overrides = .error fault := by
  rw [load_eq_bind plain, failed]
  rfl

/-- Only problems with values and keys are found where the file gives its entries. -/
theorem invalid_of_holds {file : List Assignment} (holds : surroundings.Holds file)
    {overrides : List Assignment} (plain : NoParameters overrides)
    (failed : load surroundings overrides = .error fault) :
    ∃ complaints, fault = .invalid complaints := by
  rw [holds.load plain] at failed
  cases read : (sourcesOf overrides surroundings.environment file).settings with
  | ok settings =>
    rw [read] at failed
    exact nomatch failed
  | error complaints =>
    rw [read] at failed
    exact ⟨complaints, (Except.error.inj failed).symm⟩

theorem isConfiguration_of_misconfigured (misconfigured : surroundings.Misconfigured fault) :
    fault.isConfiguration = true := by
  cases misconfigured <;> rfl

/-- A fault on the way to the file is about the home of a user. -/
theorem exists_of_filePath (homeless : surroundings.filePath = .error fault) :
    ∃ inner, fault = .home inner := by
  unfold Surroundings.filePath at homeless
  split at homeless
  · exact nomatch homeless
  · split at homeless
    · exact nomatch homeless
    · split at homeless
      · exact nomatch homeless
      · exact ⟨_, (Except.error.inj homeless).symm⟩

theorem not_isConfiguration_of_unusable (unusable : surroundings.Unusable fault) :
    fault.isConfiguration = false := by
  cases unusable with
  | homeless homeless =>
    obtain ⟨inner, rfl⟩ := exists_of_filePath homeless
    rfl
  | nameTooLong => rfl
  | unread => rfl
  | noEntries => rfl

/-- **Loading fails in a way that is not taken for a fault of the configuration exactly where the
file cannot be used.** -/
theorem unusable_iff {overrides : List Assignment} (plain : NoParameters overrides) :
    surroundings.Unusable fault ↔
      load surroundings overrides = .error fault ∧ fault.isConfiguration = false := by
  constructor
  · intro unusable
    exact ⟨load_of_fileEntries (unusable.fileEntries true) plain,
      not_isConfiguration_of_unusable unusable⟩
  · rintro ⟨failed, unexpected⟩
    rcases surroundings.holds_or_fails with ⟨file, holds⟩ | ⟨other, fails⟩ | ⟨other, fails⟩
    · obtain ⟨complaints, rfl⟩ := invalid_of_holds holds plain failed
      exact nomatch unexpected
    · have same := (load_of_fileEntries fails.fileEntries plain).symm.trans failed
      rw [← Except.error.inj same, isConfiguration_of_misconfigured fails] at unexpected
      exact nomatch unexpected
    · have same := (load_of_fileEntries (fails.fileEntries true) plain).symm.trans failed
      rwa [← Except.error.inj same]

/-- **A bad configuration ends a command with an exit code of its own and a message, unless the
file cannot be used.**  Then the fault escapes, whatever the overrides and the reader of YAML are,
as long as no override is a parameter of the loading. -/
theorem run_of_badConfiguration (context : Context) {overrides : List Assignment}
    (plain : NoParameters overrides) (fault : LoadFault) :
    (context.surroundings.Unusable fault ↔
      load context.surroundings overrides = .error fault ∧ fault.isConfiguration = false) ∧
    (load context.surroundings overrides = .error fault →
      ∀ (invocation : Invocation) (steps : Nat), invocation.overrides = overrides →
        ∃ report, invocation.run context steps = some report ∧ report.served = none ∧
          (context.surroundings.Unusable fault → report.code = .error (.settings fault)) ∧
          (¬ context.surroundings.Unusable fault →
            report.code = .ok 2 ∧ report.errors = "Error: " ++ fault.message ++ "\n")) := by
  refine ⟨unusable_iff plain, fun failed invocation steps given => ?_⟩
  refine ⟨reportOfLoad fault, by rw [Invocation.run, given, failed], ?_⟩
  unfold reportOfLoad
  cases expected : fault.isConfiguration with
  | true =>
    refine ⟨rfl, fun unusable => ?_, fun _ => ⟨rfl, rfl⟩⟩
    rw [not_isConfiguration_of_unusable unusable] at expected
    exact nomatch expected
  | false =>
    have unusable := (unusable_iff plain).mpr ⟨failed, expected⟩
    exact ⟨rfl, fun _ => rfl, fun usable => absurd unusable usable⟩

/-- A context in which the environment names a file. -/
def configured (files : Tree) : Context where
  surroundings := { environment := [("NAMES_SEARCH_CONFIG", "/c")], files, homes := ⟨"/home", []⟩ }

theorem filePath_configured (files : Tree) :
    (configured files).surroundings.filePath = .ok (some ⟨1, ["c"]⟩) := by
  have found : (configured {}).surroundings.filePath = .ok (some ⟨1, ["c"]⟩) :=
    eq_ok_of_toOption (by decide +kernel)
  exact found

theorem noParameters_nil : NoParameters [] := fun _ member => absurd member List.not_mem_nil

/-- A missing file is reported. -/
theorem run_of_badConfiguration_missingFile :
    NoParameters [] ∧ load (configured {}).surroundings [] = .error (.missingFile "/c") ∧
      ∃ report, (⟨.build, []⟩ : Invocation).run (configured {}) 1 = some report ∧
        report.code = .ok 2 ∧ report.errors = "Error: Config file /c does not exist\n" := by
  have lost : (configured {}).surroundings.files.find ⟨1, ["c"]⟩ = .error (.missing "/c") := rfl
  have missing : (configured {}).surroundings.Misconfigured (.missingFile "/c") :=
    .missing (filePath_configured {}) lost (by rintro text ⟨⟩)
  have failed := load_of_fileEntries missing.fileEntries noParameters_nil
  have usable : ¬ (configured {}).surroundings.Unusable (.missingFile "/c") := fun unusable =>
    nomatch not_isConfiguration_of_unusable unusable
  obtain ⟨report, run, -, -, reported⟩ :=
    (run_of_badConfiguration (configured {}) noParameters_nil (.missingFile "/c")).2 failed
      ⟨.build, []⟩ 1 rfl
  exact ⟨noParameters_nil, failed, report, run, reported usable⟩

/-- A file with a byte that is part of no text makes a build end in a fault that nobody expects. -/
theorem run_with_badByte :
    load (configured { files := [(["c"], [0xff])] }).surroundings [] = .error .unusable ∧
      LoadFault.isConfiguration .unusable = false ∧
      (⟨.build, []⟩ : Invocation).run (configured { files := [(["c"], [0xff])] }) 1 =
        some { code := .error (.settings .unusable) } := by
  have found : (configured { files := [(["c"], [0xff])] }).surroundings.files.find ⟨1, ["c"]⟩ =
      .ok (.file [0xff]) := rfl
  have unread : Yaml.readFile [0xff] = .error .unusable := readFile_of_noText (by decide)
  have unusable : (configured { files := [(["c"], [0xff])] }).surroundings.Unusable .unusable :=
    .unread (filePath_configured _) found unread
  have failed := load_of_fileEntries (unusable.fileEntries true) noParameters_nil
  refine ⟨failed, rfl, ?_⟩
  rw [Invocation.run, failed]
  rfl

end Typeahead.Command
