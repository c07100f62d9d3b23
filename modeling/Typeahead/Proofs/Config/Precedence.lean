import Typeahead.Proofs.Config.File
import Typeahead.Proofs.Config.Values

/-!
# Which source decides about a setting

Overrides that are not null, variables of the environment and the entries of a
file can give a setting; the first of these sources that gives it decides, and
its last entry for the setting is the one that counts (`Decides`).  That is what
looking up a setting finds (`value?_eq_iff`).

Settings are read one after another, but none touches another
(`Draft.get_foldl_read`), so they come out exactly where every one of them takes
what decides about it and every key is known (`Sources.settings_eq_ok_iff`).  What
a source gives to a setting that is decided before it is masked, and masked
entries make no difference (**`load_by_precedence`**).
-/

namespace Typeahead.Config

open Typeahead.Files Typeahead.Text

set_option autoImplicit false

/-! ## Entries that are wanted -/

section Entries

variable {κ α : Type}

/-- The last of the wanted entries has a value. -/
def LastGiven (wanted : κ × α → Prop) (entries : List (κ × α)) (value : α) : Prop :=
  ∃ before key after, entries = before ++ (key, value) :: after ∧ wanted (key, value) ∧
    ∀ entry ∈ after, ¬ wanted entry

/-- No entry is wanted. -/
def NoneGiven (wanted : κ × α → Prop) (entries : List (κ × α)) : Prop :=
  ∀ entry ∈ entries, ¬ wanted entry

/-- The same entries in the same order, apart from masked ones. -/
inductive SameApart (masked : κ × α → Prop) : List (κ × α) → List (κ × α) → Prop where
  | nil : SameApart masked [] []
  | keep (entry : κ × α) {entries others : List (κ × α)} (rest : SameApart masked entries others) :
      SameApart masked (entry :: entries) (entry :: others)
  | leave {entry : κ × α} (hidden : masked entry) {entries others : List (κ × α)}
      (rest : SameApart masked entries others) : SameApart masked (entry :: entries) others
  | add {entry : κ × α} (hidden : masked entry) {entries others : List (κ × α)}
      (rest : SameApart masked entries others) : SameApart masked entries (entry :: others)

variable {wanted masked : κ × α → Prop} {entries others : List (κ × α)} {value : α}

@[simp]
theorem not_lastGiven_nil : ¬ LastGiven wanted [] value := by
  rintro ⟨before, key, after, same, -⟩
  exact absurd same.symm (by simp)

@[simp]
theorem noneGiven_nil : NoneGiven wanted [] :=
  fun _ member => absurd member List.not_mem_nil

theorem noneGiven_cons {entry : κ × α} :
    NoneGiven wanted (entry :: entries) ↔ ¬ wanted entry ∧ NoneGiven wanted entries :=
  List.forall_mem_cons

theorem lastGiven_cons {entry : κ × α} :
    LastGiven wanted (entry :: entries) value ↔
      LastGiven wanted entries value ∨
        (NoneGiven wanted entries ∧ wanted entry ∧ entry.2 = value) := by
  constructor
  · rintro ⟨before, key, after, same, gives, last⟩
    cases before with
    | nil =>
      obtain ⟨rfl, rfl⟩ := List.cons.inj same
      exact .inr ⟨last, gives, rfl⟩
    | cons first before =>
      obtain ⟨rfl, rfl⟩ := List.cons.inj same
      exact .inl ⟨before, key, after, rfl, gives, last⟩
  · rintro (⟨before, key, after, rfl, gives, last⟩ | ⟨last, gives, rfl⟩)
    · exact ⟨entry :: before, key, after, rfl, gives, last⟩
    · exact ⟨[], entry.1, entries, rfl, gives, last⟩

/-- Where an entry is wanted, one of the wanted ones is the last. -/
theorem noneGiven_iff : NoneGiven wanted entries ↔ ∀ value, ¬ LastGiven wanted entries value := by
  induction entries with
  | nil => simp
  | cons entry entries inductionHypothesis =>
    simp only [noneGiven_cons, lastGiven_cons, not_or, inductionHypothesis, forall_and]
    constructor
    · rintro ⟨unwanted, none⟩
      exact ⟨none, fun value given => unwanted given.2.1⟩
    · rintro ⟨none, unwanted⟩
      exact ⟨fun given => unwanted entry.2 ⟨none, given, rfl⟩, none⟩

theorem lastGiven_filter {keeps : κ × α → Bool} :
    LastGiven wanted (entries.filter keeps) value ↔
      LastGiven (fun entry => wanted entry ∧ keeps entry = true) entries value := by
  induction entries generalizing value with
  | nil => simp
  | cons entry entries inductionHypothesis =>
    by_cases kept : keeps entry = true
    · rw [List.filter_cons_of_pos kept, lastGiven_cons, lastGiven_cons, noneGiven_iff,
        noneGiven_iff]
      simp only [inductionHypothesis, kept, and_true]
    · rw [List.filter_cons_of_neg kept, lastGiven_cons, inductionHypothesis]
      simp only [kept, and_false, false_and, Bool.false_eq_true, or_false]

/-- Entries that are never wanted can differ. -/
theorem SameApart.lastGiven_iff (same : SameApart masked entries others)
    (apart : ∀ entry, masked entry → ¬ wanted entry) :
    LastGiven wanted entries value ↔ LastGiven wanted others value := by
  induction same generalizing value with
  | nil => exact Iff.rfl
  | keep entry rest inductionHypothesis =>
    simp only [lastGiven_cons, noneGiven_iff, inductionHypothesis]
  | leave hidden rest inductionHypothesis =>
    simp only [lastGiven_cons, apart _ hidden, inductionHypothesis, false_and, and_false, or_false]
  | add hidden rest inductionHypothesis =>
    simp only [lastGiven_cons, apart _ hidden, inductionHypothesis, false_and, and_false, or_false]

theorem SameApart.noneGiven_iff (same : SameApart masked entries others)
    (apart : ∀ entry, masked entry → ¬ wanted entry) :
    NoneGiven wanted entries ↔ NoneGiven wanted others := by
  simp only [Config.noneGiven_iff, same.lastGiven_iff apart]

theorem SameApart.filter_eq (same : SameApart masked entries others) {keeps : κ × α → Bool}
    (apart : ∀ entry, masked entry → ¬ keeps entry = true) :
    entries.filter keeps = others.filter keeps := by
  induction same with
  | nil => rfl
  | keep entry rest inductionHypothesis =>
    rw [List.filter_cons, List.filter_cons, inductionHypothesis]
  | leave hidden rest inductionHypothesis =>
    rw [List.filter_cons_of_neg (apart _ hidden), inductionHypothesis]
  | add hidden rest inductionHypothesis =>
    rw [List.filter_cons_of_neg (apart _ hidden), inductionHypothesis]

end Entries

/-! ## What decides -/

/-- The override gives the setting: it has its key and is not null. -/
def Setting.OverriddenBy (setting : Setting) (entry : Assignment) : Prop :=
  setting.IsKey entry.1 ∧ entry.2 ≠ .null

/-- The variable gives the setting. -/
def Setting.SetBy (setting : Setting) (entry : String × String) : Prop :=
  setting.IsVariable entry.1

/-- The entry of the file gives the setting. -/
def Setting.FiledBy (setting : Setting) (entry : Assignment) : Prop :=
  setting.IsKey entry.1

/-- What decides about a setting: the first of the sources that gives it, or nothing. -/
inductive Decides (overrides : List Assignment) (environment : Variables)
    (file : List Assignment) (setting : Setting) : Option Raw → Prop where
  | fromOverrides {raw : Raw} (given : LastGiven setting.OverriddenBy overrides raw) :
      Decides overrides environment file setting (some raw)
  | fromEnvironment (notOverridden : NoneGiven setting.OverriddenBy overrides) {text : String}
      (given : LastGiven setting.SetBy environment text) :
      Decides overrides environment file setting (some (.text text))
  | fromFile (notOverridden : NoneGiven setting.OverriddenBy overrides)
      (notSet : NoneGiven setting.SetBy environment) {raw : Raw}
      (given : LastGiven setting.FiledBy file raw) :
      Decides overrides environment file setting (some raw)
  | byDefault (notOverridden : NoneGiven setting.OverriddenBy overrides)
      (notSet : NoneGiven setting.SetBy environment) (notFiled : NoneGiven setting.FiledBy file) :
      Decides overrides environment file setting none

/-! ## Looking up -/

variable {overrides file : List Assignment} {environment : Variables}

theorem lastValue?_eq_some_iff {setting : Setting} {entries : List Assignment} {raw : Raw} :
    lastValue? setting entries = some raw ↔ LastGiven setting.FiledBy entries raw := by
  unfold lastValue?
  constructor
  · intro found
    obtain ⟨⟨key, value⟩, matched, rfl⟩ := Option.map_eq_some_iff.mp found
    obtain ⟨named, behind, before, same, unnamed⟩ := List.find?_eq_some_iff_append.mp matched
    refine ⟨before.reverse, key, behind.reverse, ?_,
      Setting.ofKey?_eq_some_iff.mp (beq_iff_eq.mp named), ?_⟩
    · rw [← List.reverse_reverse entries, same]
      simp
    · intro entry member gives
      have other := unnamed entry (List.mem_reverse.mp member)
      simp [Setting.ofKey?_eq_some_iff.mpr gives] at other
  · rintro ⟨before, key, behind, rfl, gives, last⟩
    refine Option.map_eq_some_iff.mpr ⟨(key, raw), List.find?_eq_some_iff_append.mpr ⟨?_,
      behind.reverse, before.reverse, by simp, ?_⟩, rfl⟩
    · simp [Setting.ofKey?_eq_some_iff.mpr gives]
    · intro entry member
      have other := mt Setting.ofKey?_eq_some_iff.mp (last entry (List.mem_reverse.mp member))
      simp [other]

theorem lastValue?_eq_none_iff {setting : Setting} {entries : List Assignment} :
    lastValue? setting entries = none ↔ NoneGiven setting.FiledBy entries := by
  simp only [noneGiven_iff, Option.eq_none_iff_forall_ne_some, ne_eq, lastValue?_eq_some_iff]

theorem lastGiven_entriesOfVariables {setting : Setting} {raw : Raw} :
    LastGiven setting.FiledBy (entriesOfVariables environment) raw ↔
      ∃ text, raw = .text text ∧ LastGiven setting.SetBy environment text := by
  induction environment generalizing raw with
  | nil => simp [entriesOfVariables]
  | cons entry environment inductionHypothesis =>
    have none_iff : NoneGiven setting.FiledBy (entriesOfVariables environment) ↔
        NoneGiven setting.SetBy environment := by
      simp only [noneGiven_iff, inductionHypothesis]
      exact ⟨fun none text given => none _ ⟨text, rfl, given⟩,
        fun none _ ⟨text, _, given⟩ => none text given⟩
    unfold entriesOfVariables at inductionHypothesis none_iff ⊢
    cases named : keyOfVariable? entry.1 with
    | none =>
      have other : ¬ setting.SetBy entry := by
        intro gives
        obtain ⟨key, found, -⟩ := Setting.exists_keyOfVariable_iff.mpr gives
        rw [named] at found
        exact nomatch found
      rw [List.filterMap_cons_none (by rw [named]; rfl), inductionHypothesis]
      simp only [lastGiven_cons, other, false_and, and_false, or_false]
    | some key =>
      have filed_iff : setting.FiledBy (key, .text entry.2) ↔ setting.SetBy entry := by
        rw [Setting.SetBy, ← Setting.exists_keyOfVariable_iff, named]
        simp [Setting.FiledBy]
      rw [List.filterMap_cons_some (by rw [named]; rfl), lastGiven_cons, inductionHypothesis,
        none_iff, filed_iff]
      simp only [lastGiven_cons]
      constructor
      · rintro (⟨text, rfl, given⟩ | ⟨none, gives, rfl⟩)
        · exact ⟨text, rfl, .inl given⟩
        · exact ⟨entry.2, rfl, .inr ⟨none, gives, rfl⟩⟩
      · rintro ⟨text, rfl, given | ⟨none, gives, rfl⟩⟩
        · exact .inl ⟨text, rfl, given⟩
        · exact .inr ⟨none, gives, rfl⟩

/-- The sources of loaded settings. -/
def sourcesOf (overrides : List Assignment) (environment : Variables) (file : List Assignment) :
    Sources where
  overrides := overrides.filter fun entry => entry.2 != .null
  environment := entriesOfVariables environment
  file := file

@[simp]
theorem file_sourcesOf : (sourcesOf overrides environment file).file = file := rfl

section Lookup

variable {setting : Setting}

theorem lastValue?_overrides_eq_some_iff {raw : Raw} :
    lastValue? setting (sourcesOf overrides environment file).overrides = some raw ↔
      LastGiven setting.OverriddenBy overrides raw := by
  rw [lastValue?_eq_some_iff, sourcesOf, lastGiven_filter]
  simp only [bne_iff_ne]
  rfl

theorem lastValue?_overrides_eq_none_iff :
    lastValue? setting (sourcesOf overrides environment file).overrides = none ↔
      NoneGiven setting.OverriddenBy overrides := by
  simp only [noneGiven_iff, Option.eq_none_iff_forall_ne_some, ne_eq,
    lastValue?_overrides_eq_some_iff]

theorem lastValue?_environment_eq_some_iff {raw : Raw} :
    lastValue? setting (sourcesOf overrides environment file).environment = some raw ↔
      ∃ text, raw = .text text ∧ LastGiven setting.SetBy environment text := by
  rw [lastValue?_eq_some_iff, sourcesOf, lastGiven_entriesOfVariables]

theorem lastValue?_environment_eq_none_iff :
    lastValue? setting (sourcesOf overrides environment file).environment = none ↔
      NoneGiven setting.SetBy environment := by
  simp only [noneGiven_iff, Option.eq_none_iff_forall_ne_some, ne_eq,
    lastValue?_environment_eq_some_iff]
  exact ⟨fun none text given => none _ ⟨text, rfl, given⟩,
    fun none _ ⟨text, _, given⟩ => none text given⟩

/-- What is looked up for a setting decides about it. -/
theorem decides_value? :
    Decides overrides environment file setting
      ((sourcesOf overrides environment file).value? setting) := by
  simp only [Sources.value?, List.findSome?_cons, List.findSome?_nil]
  cases overriding : lastValue? setting (sourcesOf overrides environment file).overrides with
  | some raw => exact .fromOverrides (lastValue?_overrides_eq_some_iff.mp overriding)
  | none =>
    have notOverridden := lastValue?_overrides_eq_none_iff.mp overriding
    cases named : lastValue? setting (sourcesOf overrides environment file).environment with
    | some raw =>
      obtain ⟨text, rfl, given⟩ := lastValue?_environment_eq_some_iff.mp named
      exact .fromEnvironment notOverridden given
    | none =>
      have notSet := lastValue?_environment_eq_none_iff.mp named
      cases filed : lastValue? setting (sourcesOf overrides environment file).file with
      | some raw => exact .fromFile notOverridden notSet (lastValue?_eq_some_iff.mp filed)
      | none => exact .byDefault notOverridden notSet (lastValue?_eq_none_iff.mp filed)

/-- Looking up a setting finds what decides about it. -/
theorem value?_eq_iff {chosen : Option Raw} :
    (sourcesOf overrides environment file).value? setting = chosen ↔
      Decides overrides environment file setting chosen := by
  constructor
  · rintro rfl
    exact decides_value?
  · intro decides
    simp only [Sources.value?, List.findSome?_cons, List.findSome?_nil]
    cases decides with
    | fromOverrides given => rw [lastValue?_overrides_eq_some_iff.mpr given]
    | fromEnvironment notOverridden given =>
      rw [lastValue?_overrides_eq_none_iff.mpr notOverridden,
        lastValue?_environment_eq_some_iff.mpr ⟨_, rfl, given⟩]
    | fromFile notOverridden notSet given =>
      rw [lastValue?_overrides_eq_none_iff.mpr notOverridden,
        lastValue?_environment_eq_none_iff.mpr notSet]
      simp only [file_sourcesOf, lastValue?_eq_some_iff.mpr given]
    | byDefault notOverridden notSet notFiled =>
      rw [lastValue?_overrides_eq_none_iff.mpr notOverridden,
        lastValue?_environment_eq_none_iff.mpr notSet]
      simp only [file_sourcesOf, lastValue?_eq_none_iff.mpr notFiled]

end Lookup

/-! ## One setting after another -/

/-- The setting comes out with the value, given what decides about it. -/
inductive Setting.Takes (setting : Setting) : Option Raw → Raw → Prop where
  | default : Takes setting none (({} : Settings).get setting)
  | value {raw value : Raw} (read : setting.read raw = .ok value) : Takes setting (some raw) value

/-- What is wrong with what decides about a setting, if anything is. -/
def Sources.complaint? (sources : Sources) (setting : Setting) : Option Complaint :=
  match (sources.value? setting).map setting.read with
  | some (.error problem) => some ⟨setting.key, problem⟩
  | _ => none

/-- What a setting with some value becomes when it is read. -/
def Sources.shown (sources : Sources) (setting : Setting) (value : Raw) : Raw :=
  match (sources.value? setting).map setting.read with
  | some (.ok new) => new
  | _ => value

/-- Reading a setting changes its value and adds what is wrong. -/
theorem Draft.read_spec (sources : Sources) (draft : Draft) (setting : Setting) :
    (draft.read sources setting).complaints =
        draft.complaints ++ (sources.complaint? setting).toList ∧
      (draft.read sources setting).settings.get setting =
        sources.shown setting (draft.settings.get setting) ∧
      ∀ other, other ≠ setting →
        (draft.read sources setting).settings.get other = draft.settings.get other := by
  unfold Draft.read Sources.complaint? Sources.shown
  cases sources.value? setting with
  | none => simp
  | some raw =>
    have read := draft.settings.map_get_assign raw setting
    cases assigned : draft.settings.assign raw setting with
    | ok settings =>
      rw [assigned] at read
      simp only [assigned, Option.map_some, ← read, Except.map, Option.toList_none, List.append_nil,
        true_and]
      exact fun other different => Settings.get_of_assign assigned different
    | error problem =>
      rw [assigned] at read
      simp [assigned, ← read, Except.map]

theorem Draft.complaints_foldl_read (sources : Sources) (settings : List Setting) (draft : Draft) :
    (settings.foldl (Draft.read sources) draft).complaints =
      draft.complaints ++ settings.filterMap sources.complaint? := by
  induction settings generalizing draft with
  | nil => simp
  | cons setting settings inductionHypothesis =>
    rw [List.foldl_cons, inductionHypothesis, (draft.read_spec sources setting).1,
      List.append_assoc, List.filterMap_cons]
    cases sources.complaint? setting with
    | none => rfl
    | some complaint => rfl

/-- Every setting that is read comes out as if it were read alone. -/
theorem Draft.get_foldl_read (sources : Sources) {settings : List Setting}
    (distinct : settings.Nodup) (draft : Draft) (setting : Setting) :
    (settings.foldl (Draft.read sources) draft).settings.get setting =
      if setting ∈ settings then sources.shown setting (draft.settings.get setting)
      else draft.settings.get setting := by
  induction settings generalizing draft with
  | nil => rfl
  | cons first settings inductionHypothesis =>
    obtain ⟨-, own, others⟩ := draft.read_spec sources first
    obtain ⟨notLater, distinct⟩ := List.nodup_cons.mp distinct
    rw [List.foldl_cons, inductionHypothesis distinct]
    by_cases same : setting = first
    · subst same
      rw [if_neg notLater, if_pos List.mem_cons_self, own]
    · simp only [List.mem_cons, same, false_or, others setting same]

/-- The keys that are kept once each are none only where there are none. -/
theorem foldl_contains_eq_nil_iff {keys kept : List String} :
    keys.foldl (fun kept key => if kept.contains key then kept else kept ++ [key]) kept = [] ↔
      kept = [] ∧ keys = [] := by
  induction keys generalizing kept with
  | nil => simp
  | cons key keys inductionHypothesis =>
    rw [List.foldl_cons, inductionHypothesis]
    constructor
    · rintro ⟨none, -⟩
      split at none
      · rename_i present
        rw [none] at present
        exact absurd present (by simp)
      · exact absurd none (by simp)
    · rintro ⟨-, none⟩
      exact nomatch none

/-- Every key that is given names a setting. -/
def KeysKnown (overrides file : List Assignment) : Prop :=
  (∀ entry ∈ overrides, entry.2 ≠ .null → ∃ setting : Setting, setting.IsKey entry.1) ∧
    ∀ entry ∈ file, ∃ setting : Setting, setting.IsKey entry.1

theorem unknownKeys_eq_nil_iff :
    (sourcesOf overrides environment file).unknownKeys = [] ↔ KeysKnown overrides file := by
  unfold Sources.unknownKeys KeysKnown
  rw [foldl_contains_eq_nil_iff]
  simp [sourcesOf, Setting.ofKey?_eq_none_iff]

/-- A setting takes what decides about it where nothing is wrong with that. -/
theorem Sources.takes_iff (sources : Sources) {setting : Setting} {value : Raw} :
    setting.Takes (sources.value? setting) value ↔
      sources.complaint? setting = none ∧
        sources.shown setting (({} : Settings).get setting) = value := by
  unfold Sources.complaint? Sources.shown
  cases sources.value? setting with
  | none =>
    simp only [Option.map_none, true_and]
    constructor
    · rintro ⟨⟩
      rfl
    · rintro rfl
      exact .default
  | some raw =>
    cases read : setting.read raw with
    | ok new =>
      simp only [Option.map_some, read, true_and]
      constructor
      · rintro (_ | taken)
        exact Except.ok.inj (read.symm.trans taken)
      · rintro rfl
        exact .value read
    | error problem =>
      simp only [Option.map_some, read, reduceCtorEq, false_and, iff_false]
      rintro (_ | taken)
      exact nomatch read.symm.trans taken

/-- The settings as all of them have been read. -/
def Sources.drafted (sources : Sources) : Settings :=
  (Setting.all.foldl (Draft.read sources) {}).settings

theorem Sources.get_drafted (sources : Sources) (setting : Setting) :
    sources.drafted.get setting = sources.shown setting (({} : Settings).get setting) := by
  unfold drafted
  rw [Draft.get_foldl_read sources Setting.nodup_all, if_pos (Setting.mem_all setting)]

/-- Settings come out of their sources where every setting takes what decides about it. -/
theorem Sources.settings_eq_ok_iff (sources : Sources) {settings : Settings} :
    sources.settings = .ok settings ↔
      (∀ setting : Setting, setting.Takes (sources.value? setting) (settings.get setting)) ∧
        sources.unknownKeys = [] := by
  have drafted_iff : sources.drafted = settings ↔
      ∀ setting, sources.shown setting (({} : Settings).get setting) = settings.get setting := by
    simp only [← sources.get_drafted]
    constructor
    · rintro rfl setting
      rfl
    · exact Settings.ext_get
  have silent_iff : Setting.all.filterMap sources.complaint? = [] ↔
      ∀ setting, sources.complaint? setting = none := by
    simp only [List.filterMap_eq_nil_iff, Setting.mem_all, true_imp_iff]
  unfold Sources.settings
  simp only [Draft.complaints_foldl_read, List.nil_append, List.isEmpty_iff,
    List.append_eq_nil_iff, List.map_eq_nil_iff, Sources.takes_iff, forall_and, ← silent_iff,
    ← drafted_iff]
  split
  · rename_i silent
    simp [silent, Sources.drafted]
  · rename_i wrong
    simp only [reduceCtorEq, false_iff]
    rintro ⟨⟨silent, -⟩, known⟩
    exact wrong ⟨silent, known⟩

theorem Sources.exists_settings_iff (sources : Sources) :
    (∃ settings, sources.settings = .ok settings) ↔
      (∀ setting : Setting, ∃ value, setting.Takes (sources.value? setting) value) ∧
        sources.unknownKeys = [] := by
  constructor
  · rintro ⟨settings, read⟩
    obtain ⟨takes, known⟩ := sources.settings_eq_ok_iff.mp read
    exact ⟨fun setting => ⟨_, takes setting⟩, known⟩
  · rintro ⟨takes, known⟩
    refine ⟨sources.drafted, sources.settings_eq_ok_iff.mpr ⟨fun setting => ?_, known⟩⟩
    obtain ⟨value, takesValue⟩ := takes setting
    obtain ⟨silent, -⟩ := sources.takes_iff.mp takesValue
    exact sources.takes_iff.mpr ⟨silent, (sources.get_drafted setting).symm⟩

/-! ## Loading -/

variable {surroundings : Surroundings}

/-- No override is a parameter of the loading. -/
def NoParameters (overrides : List Assignment) : Prop :=
  ∀ entry ∈ overrides, entry.2 ≠ .null → isParameter entry.1 = false

theorem find?_parameter_eq_none_iff :
    ((overrides.filter fun entry => entry.2 != .null).find? fun entry =>
      isParameter entry.1) = none ↔ NoParameters overrides := by
  simp [NoParameters]

theorem KeysKnown.noParameters (known : KeysKnown overrides file) : NoParameters overrides := by
  intro entry member given
  obtain ⟨setting, named⟩ := known.1 entry member given
  exact named.not_isParameter

/-- A parameter is refused before anything is looked up. -/
theorem exists_load_of_parameters (parameters : ¬ NoParameters overrides) :
    ∃ key, ∀ surroundings, load surroundings overrides = .error (.parameter key) := by
  obtain ⟨entry, found⟩ := Option.ne_none_iff_exists'.mp
    (mt find?_parameter_eq_none_iff.mp parameters)
  refine ⟨entry.1, fun surroundings => ?_⟩
  rw [load, settle, found]
  rfl

/-- Without parameters the file is looked up, and the settings come out of their sources. -/
theorem load_eq_bind (plain : NoParameters overrides) (surroundings : Surroundings) :
    load surroundings overrides = (surroundings.fileEntries true).bind fun file =>
      (sourcesOf overrides surroundings.environment file).settings.mapError .invalid := by
  rw [load, settle, find?_parameter_eq_none_iff.mpr plain]
  cases surroundings.fileEntries true with
  | error fault => rfl
  | ok file =>
    simp only [bind, Except.bind, sourcesOf]
    split
    · rename_i given
      rw [given]
      rfl
    · rename_i given
      rw [given]
      rfl

/-- Settings that are loaded come out of their sources. -/
theorem Surroundings.Holds.load (holds : surroundings.Holds file)
    (plain : NoParameters overrides) :
    load surroundings overrides =
      (sourcesOf overrides surroundings.environment file).settings.mapError .invalid := by
  rw [load_eq_bind plain, holds.fileEntries true]
  rfl

theorem mapError_eq_ok_iff {result : Except (List Complaint) Settings} {settings : Settings} :
    result.mapError LoadFault.invalid = .ok settings ↔ result = .ok settings := by
  cases result with
  | ok loaded =>
    exact ⟨fun same => congrArg _ (Except.ok.inj same), fun same => congrArg _ (Except.ok.inj same)⟩
  | error complaints => constructor <;> intro same <;> cases same

theorem Surroundings.Holds.load_eq_ok_iff (holds : surroundings.Holds file)
    {overrides : List Assignment} {settings : Settings} :
    Config.load surroundings overrides = .ok settings ↔
      (sourcesOf overrides surroundings.environment file).settings = .ok settings := by
  by_cases plain : NoParameters overrides
  · rw [holds.load plain, mapError_eq_ok_iff]
  · obtain ⟨key, refused⟩ := exists_load_of_parameters plain
    rw [refused surroundings, Sources.settings_eq_ok_iff, unknownKeys_eq_nil_iff]
    exact ⟨nofun, fun ⟨_, known⟩ => absurd known.noParameters plain⟩

/-- The variable gives a setting that is overridden. -/
def MaskedVariable (overrides : List Assignment) (entry : String × String) : Prop :=
  ∃ setting : Setting, setting.SetBy entry ∧ ∃ given ∈ overrides, setting.OverriddenBy given

/-- The entry of the file gives a setting that is overridden or given by a variable. -/
def MaskedEntry (overrides : List Assignment) (environment : Variables) (entry : Assignment) :
    Prop :=
  ∃ setting : Setting, setting.FiledBy entry ∧
    ((∃ given ∈ overrides, setting.OverriddenBy given) ∨
      ∃ given ∈ environment, setting.SetBy given)

theorem Setting.eq_of_isKey {setting other : Setting} {text : String} (named : setting.IsKey text)
    (alsoNamed : other.IsKey text) : setting = other :=
  key_injective (named.symm.trans alsoNamed)

theorem Setting.eq_of_isVariable {setting other : Setting} {text : String}
    (named : setting.IsVariable text) (alsoNamed : other.IsVariable text) : setting = other :=
  key_injective (String.append_right_inj _ |>.mp (named.symm.trans alsoNamed))

variable {otherEnvironment : Variables} {otherFile : List Assignment}

/-- What is masked does not decide. -/
theorem Decides.of_sameApart {setting : Setting} {chosen : Option Raw}
    (decides : Decides overrides environment file setting chosen)
    (sameVariables : SameApart (MaskedVariable overrides) environment otherEnvironment)
    (entries : SameApart (MaskedEntry overrides environment) file otherFile) :
    Decides overrides otherEnvironment otherFile setting chosen := by
  have notVariable (notOverridden : NoneGiven setting.OverriddenBy overrides)
      (entry : String × String) (masked : MaskedVariable overrides entry) :
      ¬ setting.SetBy entry := by
    rintro named
    obtain ⟨other, alsoNamed, given, member, gives⟩ := masked
    rw [← Setting.eq_of_isVariable named alsoNamed] at gives
    exact notOverridden given member gives
  have notEntry (notOverridden : NoneGiven setting.OverriddenBy overrides)
      (notSet : NoneGiven setting.SetBy environment)
      (entry : Assignment) (masked : MaskedEntry overrides environment entry) :
      ¬ setting.FiledBy entry := by
    rintro named
    obtain ⟨other, alsoNamed, ⟨given, member, gives⟩ | ⟨given, member, gives⟩⟩ := masked
    · rw [← Setting.eq_of_isKey named alsoNamed] at gives
      exact notOverridden given member gives
    · rw [← Setting.eq_of_isKey named alsoNamed] at gives
      exact notSet given member gives
  cases decides with
  | fromOverrides given => exact .fromOverrides given
  | fromEnvironment notOverridden given =>
    exact .fromEnvironment notOverridden
      ((sameVariables.lastGiven_iff (notVariable notOverridden)).mp given)
  | fromFile notOverridden notSet given =>
    exact .fromFile notOverridden
      ((sameVariables.noneGiven_iff (notVariable notOverridden)).mp notSet)
      ((entries.lastGiven_iff (notEntry notOverridden notSet)).mp given)
  | byDefault notOverridden notSet notFiled =>
    exact .byDefault notOverridden
      ((sameVariables.noneGiven_iff (notVariable notOverridden)).mp notSet)
      ((entries.noneGiven_iff (notEntry notOverridden notSet)).mp notFiled)

theorem unknownKeys_of_sameApart
    (entries : SameApart (MaskedEntry overrides environment) file otherFile) :
    (sourcesOf overrides environment file).unknownKeys =
      (sourcesOf overrides otherEnvironment otherFile).unknownKeys := by
  have known (entry : Assignment) (masked : MaskedEntry overrides environment entry) :
      ¬ (Setting.ofKey? entry.1).isNone = true := by
    obtain ⟨setting, named, -⟩ := masked
    simp [Setting.ofKey?_eq_some_iff.mpr named]
  have same : file.filter ((fun key => (Setting.ofKey? key).isNone) ∘ Prod.fst) =
      otherFile.filter ((fun key => (Setting.ofKey? key).isNone) ∘ Prod.fst) :=
    entries.filter_eq known
  simp only [Sources.unknownKeys, List.filter_map, List.filter_append, sourcesOf, List.map_append,
    same]

theorem Sources.settings_congr {sources others : Sources}
    (decided : ∀ setting, sources.value? setting = others.value? setting)
    (unknown : sources.unknownKeys = others.unknownKeys) : sources.settings = others.settings := by
  have read : Draft.read sources = Draft.read others := by
    funext draft setting
    simp only [Draft.read, decided]
  simp only [Sources.settings, read, unknown]

/-- **Every setting is decided by the first source that gives it, and by nothing else.**  Settings
are loaded exactly where every one of them takes what decides about it and every key is known; and
where surroundings differ in nothing but masked entries, the same settings or the same faults come
out. -/
theorem load_by_precedence (holds : surroundings.Holds file) (overrides : List Assignment) :
    (∀ settings, load surroundings overrides = .ok settings ↔
      (∀ setting, ∃ chosen, Decides overrides surroundings.environment file setting chosen ∧
        setting.Takes chosen (settings.get setting)) ∧ KeysKnown overrides file) ∧
    ((∃ settings, load surroundings overrides = .ok settings) ↔
      (∀ setting chosen, Decides overrides surroundings.environment file setting chosen →
        ∃ value, setting.Takes chosen value) ∧ KeysKnown overrides file) ∧
    ∀ (other : Surroundings) (otherFile : List Assignment), other.Holds otherFile →
      SameApart (MaskedVariable overrides) surroundings.environment other.environment →
      SameApart (MaskedEntry overrides surroundings.environment) file otherFile →
      load other overrides = load surroundings overrides := by
  refine ⟨fun settings => ?_, ?_, fun other otherFile otherHolds sameVariables entries => ?_⟩
  · rw [holds.load_eq_ok_iff, Sources.settings_eq_ok_iff, unknownKeys_eq_nil_iff]
    refine and_congr_left fun _ => forall_congr' fun setting => ⟨fun takes => ?_, ?_⟩
    · exact ⟨_, decides_value?, takes⟩
    · rintro ⟨chosen, decides, takes⟩
      rwa [value?_eq_iff.mpr decides]
  · simp only [holds.load_eq_ok_iff]
    rw [Sources.exists_settings_iff, unknownKeys_eq_nil_iff]
    refine and_congr_left fun _ => forall_congr' fun setting => ⟨?_, fun takes => ?_⟩
    · rintro takes chosen decides
      rwa [← value?_eq_iff.mpr decides]
    · exact takes _ decides_value?
  · by_cases plain : NoParameters overrides
    · rw [holds.load plain, otherHolds.load plain]
      refine congrArg _ (Sources.settings_congr (fun setting => ?_) ?_)
      · exact value?_eq_iff.mpr (decides_value?.of_sameApart sameVariables entries)
      · exact (unknownKeys_of_sameApart entries).symm
    · obtain ⟨key, refused⟩ := exists_load_of_parameters plain
      rw [refused other, refused surroundings]

/-- A file with no number for the port, and a variable with one. -/
def portSurroundings : Surroundings where
  environment := [("NAMES_SEARCH_CONFIG", "/c"), ("names_search_Port", "81")]
  files := { files := [(["c"], [0x70, 0x6f, 0x72, 0x74, 0x3a, 0x20, 0x78])] }
  homes := ⟨"/home", []⟩

theorem load_by_precedence_port :
    portSurroundings.Holds [("port", .text "x")] ∧
      (load portSurroundings [("PORT", .null)]).toOption.map Settings.port = some 81 ∧
      load { portSurroundings with files := { files := [(["c"], [])] } } [("PORT", .null)] =
        load portSurroundings [("PORT", .null)] := by
  have holds : portSurroundings.Holds [("port", .text "x")] :=
    Surroundings.fileEntries_eq_ok_iff.mp (eq_ok_of_toOption (by decide +kernel))
  have emptied : Surroundings.Holds
      { portSurroundings with files := { files := [(["c"], [])] } } [] :=
    Surroundings.fileEntries_eq_ok_iff.mp (eq_ok_of_toOption (by decide +kernel))
  have masked : MaskedEntry [("PORT", .null)] portSurroundings.environment ("port", .text "x") :=
    ⟨.port, show Setting.IsKey .port "port" by decide +kernel, .inr ⟨("names_search_Port", "81"),
      by simp [portSurroundings], show Setting.IsVariable .port "names_search_Port" by
        decide +kernel⟩⟩
  refine ⟨holds, by decide +kernel, ?_⟩
  exact (load_by_precedence holds [("PORT", .null)]).2.2 _ [] emptied
    (.keep _ (.keep _ .nil)) (.leave masked .nil)

end Typeahead.Config
