import Mathlib.Data.List.Forall2
import Typeahead.Config.Load
import Typeahead.Proofs.Results

/-!
# What the file gives

A document gives entries if it is empty, if its root maps texts to values, or if
it lists pairs of texts and values (`DocumentGives`).  The file that the
environment names either gives entries (`Surroundings.Holds`), or there is no
file or no YAML text, which is a fault of the configuration, or it cannot be
used, which nobody expects (`Surroundings.Unusable`).  All this is said of every
reader of YAML.
-/

namespace Typeahead.Config

open Typeahead.Files Typeahead.Text

set_option autoImplicit false

/-! ## Documents -/

/-- An item of a list of entries pairs a key with a value: it is a list of the two, a mapping or a
set with two keys, a text of two characters, or the list of entries itself. -/
inductive Pairs (items : List Yaml.Value) : Yaml.Value → Yaml.Scalar → Yaml.Value → Prop where
  | sequence (key : Yaml.Scalar) (value : Yaml.Value) :
      Pairs items (.sequence [.scalar key, value]) key value
  | mapping (key other : Yaml.Scalar) (first second : Yaml.Value) :
      Pairs items (.mapping [(key, first), (other, second)]) key (.scalar other)
  | set (key other : Yaml.Scalar) : Pairs items (.set [key, other]) key (.scalar other)
  | letters {scalar : Yaml.Scalar} {text : String} (isText : textOf? scalar = some text)
      {first second : Char} (two : text.toList = [first, second]) :
      Pairs items (.scalar scalar) (.text (String.singleton first))
        (.scalar (.text (String.singleton second)))
  | loop {key : Yaml.Scalar} {value : Yaml.Value} (whole : items = [.scalar key, value]) :
      Pairs items .loop key value

/-- A key that is a text gives an entry with its value. -/
inductive Gives : Yaml.Scalar → Yaml.Value → Assignment → Prop where
  | intro {key : Yaml.Scalar} {text : String} (isText : textOf? key = some text)
      (value : Yaml.Value) : Gives key value (text, rawOfYaml value)

/-- An item of a list of entries gives an entry. -/
def ItemGives (items : List Yaml.Value) (item : Yaml.Value) (entry : Assignment) : Prop :=
  ∃ key value, Pairs items item key value ∧ Gives key value entry

/-- The entries of a document: none if it is empty, and otherwise what its root maps texts to or
pairs them with. -/
inductive DocumentGives : Yaml.Value → List Assignment → Prop where
  | emptyScalar {scalar : Yaml.Scalar} (empty : isEmptyScalar scalar = true) :
      DocumentGives (.scalar scalar) []
  | sequence {items : List Yaml.Value} {entries : List Assignment}
      (given : List.Forall₂ (ItemGives items) items entries) :
      DocumentGives (.sequence items) entries
  | set {members : List Yaml.Scalar} {entries : List Assignment}
      (given : List.Forall₂ (fun member => ItemGives [] (.scalar member)) members entries) :
      DocumentGives (.set members) entries
  | mapping {pairs : List (Yaml.Scalar × Yaml.Value)} {entries : List Assignment}
      (given : List.Forall₂ (fun pair => Gives pair.1 pair.2) pairs entries) :
      DocumentGives (.mapping pairs) entries

theorem entryOf_eq_ok_iff {key : Yaml.Scalar} {value : Yaml.Value} {entry : Assignment} :
    entryOf key value = .ok entry ↔ Gives key value entry := by
  unfold entryOf
  constructor
  · intro given
    split at given
    next text isText =>
      cases given
      exact .intro isText value
    next => exact nomatch given
  · rintro ⟨isText, _⟩
    rw [isText]

/-- The two things that an item brings are a key and a value exactly where it pairs them. -/
theorem twoOf?_eq_some_iff {items : List Yaml.Value} {item : Yaml.Value} {key : Yaml.Scalar}
    {value : Yaml.Value} :
    twoOf? items item = some (.scalar key, value) ↔ Pairs items item key value := by
  constructor
  · intro two
    unfold twoOf? at two
    split at two
    next =>
      cases two
      exact .sequence key value
    next =>
      cases two
      exact .mapping ..
    next =>
      cases two
      exact .set ..
    next scalar =>
      split at two
      next first second letters =>
        obtain ⟨text, isText, same⟩ := Option.map_eq_some_iff.mp letters
        cases two
        exact .letters isText same
      next => exact nomatch two
    next =>
      split at two
      next =>
        cases two
        exact .loop rfl
      next => exact nomatch two
    next => exact nomatch two
  · intro pairs
    cases pairs with
    | letters isText two => simp only [twoOf?, isText, Option.map_some, two]
    | loop whole => simp only [twoOf?, whole]
    | _ => rfl

theorem entryOfItem_eq_ok_iff {items : List Yaml.Value} {item : Yaml.Value}
    {entry : Assignment} :
    entryOfItem items item = .ok entry ↔ ItemGives items item entry := by
  unfold entryOfItem ItemGives
  constructor
  · intro given
    split at given
    next key value two =>
      exact ⟨key, value, twoOf?_eq_some_iff.mp two, entryOf_eq_ok_iff.mp given⟩
    next => exact nomatch given
  · rintro ⟨key, value, pairs, gives⟩
    rw [twoOf?_eq_some_iff.mpr pairs]
    exact entryOf_eq_ok_iff.mpr gives

/-- **A document gives entries exactly where they are read from it.** -/
theorem entriesOfDocument_eq_ok_iff {document : Yaml.Value} {entries : List Assignment} :
    entriesOfDocument document = .ok entries ↔ DocumentGives document entries := by
  cases document with
  | scalar scalar =>
    constructor
    · intro read
      simp only [entriesOfDocument] at read
      split at read
      next empty =>
        cases read
        exact .emptyScalar empty
      next => exact nomatch read
    · rintro ⟨empty⟩
      exact if_pos empty
  | sequence items =>
    simp only [entriesOfDocument, mapM_eq_ok_iff, entryOfItem_eq_ok_iff]
    exact ⟨.sequence, fun | .sequence given => given⟩
  | set members =>
    simp only [entriesOfDocument, mapM_eq_ok_iff, entryOfItem_eq_ok_iff]
    exact ⟨.set, fun | .set given => given⟩
  | mapping pairs =>
    simp only [entriesOfDocument, mapM_eq_ok_iff, entryOf_eq_ok_iff]
    exact ⟨.mapping, fun | .mapping given => given⟩
  | loop => exact ⟨nofun, nofun⟩

/-- A list of pairs gives their entries. -/
example : entriesOfDocument (.sequence [.sequence [.scalar (.text "port"), .scalar (.integer 81)]]) =
    .ok [("port", .integer 81)] := rfl

theorem entryOf_eq_error {key : Yaml.Scalar} {value : Yaml.Value} {fault : LoadFault}
    (failed : entryOf key value = .error fault) : fault = .unusable := by
  unfold entryOf at failed
  split at failed
  · exact nomatch failed
  · exact (Except.error.inj failed).symm

theorem entryOfItem_eq_error {items : List Yaml.Value} {item : Yaml.Value} {fault : LoadFault}
    (failed : entryOfItem items item = .error fault) : fault = .unusable := by
  unfold entryOfItem at failed
  split at failed
  · exact entryOf_eq_error failed
  · exact (Except.error.inj failed).symm

/-- A document that gives no entries fails in one way. -/
theorem entriesOfDocument_eq_error {document : Yaml.Value} {fault : LoadFault}
    (failed : entriesOfDocument document = .error fault) : fault = .unusable := by
  cases document with
  | scalar scalar =>
    simp only [entriesOfDocument] at failed
    split at failed
    · exact nomatch failed
    · exact (Except.error.inj failed).symm
  | sequence items =>
    obtain ⟨item, -, failed⟩ := exists_of_mapM_eq_error failed
    exact entryOfItem_eq_error failed
  | set members =>
    obtain ⟨member, -, failed⟩ := exists_of_mapM_eq_error failed
    exact entryOfItem_eq_error failed
  | mapping pairs =>
    obtain ⟨pair, -, failed⟩ := exists_of_mapM_eq_error failed
    exact entryOf_eq_error failed
  | loop => exact (Except.error.inj failed).symm

/-! ## Files -/

/-- The surroundings hold the entries of a file, or no file is named. -/
inductive Surroundings.Holds (surroundings : Surroundings) : List Assignment → Prop where
  | unnamed (named : surroundings.filePath = .ok none) : surroundings.Holds []
  | named {path : Path} (named : surroundings.filePath = .ok (some path)) {bytes : List UInt8}
      (found : surroundings.files.find path = .ok (.file bytes)) {document : Yaml.Value}
      (parsed : surroundings.reader bytes = .ok document) {file : List Assignment}
      (gives : DocumentGives document file) : surroundings.Holds file

/-- The file is not there, or is no YAML text. -/
inductive Surroundings.Misconfigured (surroundings : Surroundings) : LoadFault → Prop where
  | directory {path : Path} (named : surroundings.filePath = .ok (some path))
      (found : surroundings.files.find path = .ok .directory) :
      surroundings.Misconfigured (.missingFile path.text)
  | missing {path : Path} (named : surroundings.filePath = .ok (some path)) {fault : OpenFault}
      (missing : surroundings.files.find path = .error fault)
      (notTooLong : ∀ text, fault ≠ .nameTooLong text) :
      surroundings.Misconfigured (.missingFile path.text)
  | malformed {path : Path} (named : surroundings.filePath = .ok (some path))
      {bytes : List UInt8} (found : surroundings.files.find path = .ok (.file bytes))
      (malformed : surroundings.reader bytes = .error .malformed) :
      surroundings.Misconfigured .malformed

/-- The file cannot be used, in a way that is not taken for a fault of the configuration. -/
inductive Surroundings.Unusable (surroundings : Surroundings) : LoadFault → Prop where
  /-- the path begins with a tilde and the name of nobody -/
  | homeless {fault : LoadFault} (homeless : surroundings.filePath = .error fault) :
      surroundings.Unusable fault
  | nameTooLong {path : Path} (named : surroundings.filePath = .ok (some path)) {text : String}
      (tooLong : surroundings.files.find path = .error (.nameTooLong text)) :
      surroundings.Unusable (.lookup (.nameTooLong text))
  /-- the reader fails otherwise than at the rules of the language: the bytes spell no text, a value
  is spelled like one of a type that has no such value, or the values nest too deep for it -/
  | unread {path : Path} (named : surroundings.filePath = .ok (some path)) {bytes : List UInt8}
      (found : surroundings.files.find path = .ok (.file bytes))
      (unread : surroundings.reader bytes = .error .unusable) : surroundings.Unusable .unusable
  /-- the document neither is empty nor gives entries -/
  | noEntries {path : Path} (named : surroundings.filePath = .ok (some path))
      {bytes : List UInt8} (found : surroundings.files.find path = .ok (.file bytes))
      {document : Yaml.Value} (parsed : surroundings.reader bytes = .ok document)
      (nothing : ∀ file, ¬ DocumentGives document file) : surroundings.Unusable .unusable

/-- Bytes that spell no text are no file that the reader of YAML takes. -/
theorem readFile_of_noText {bytes : List UInt8} (noText : decode? bytes = none) :
    Yaml.readFile bytes = .error .unusable := by
  simp only [Yaml.readFile, noText]

variable {surroundings : Surroundings}

theorem Surroundings.holds_or_fails (surroundings : Surroundings) :
    (∃ file, surroundings.Holds file) ∨ (∃ fault, surroundings.Misconfigured fault) ∨
      ∃ fault, surroundings.Unusable fault := by
  cases named : surroundings.filePath with
  | error fault => exact .inr (.inr ⟨fault, .homeless named⟩)
  | ok path =>
    cases path with
    | none => exact .inl ⟨[], .unnamed named⟩
    | some path =>
      cases found : surroundings.files.find path with
      | error fault =>
        by_cases tooLong : ∃ text, fault = .nameTooLong text
        · obtain ⟨text, rfl⟩ := tooLong
          exact .inr (.inr ⟨_, .nameTooLong named found⟩)
        · exact .inr (.inl ⟨_, .missing named found fun text same => tooLong ⟨text, same⟩⟩)
      | ok entry =>
        cases entry with
        | directory => exact .inr (.inl ⟨_, .directory named found⟩)
        | file bytes =>
          cases parsed : surroundings.reader bytes with
          | error fault =>
            cases fault with
            | malformed => exact .inr (.inl ⟨_, .malformed named found parsed⟩)
            | unusable => exact .inr (.inr ⟨_, .unread named found parsed⟩)
          | ok document =>
            by_cases gives : ∃ file, DocumentGives document file
            · obtain ⟨file, gives⟩ := gives
              exact .inl ⟨file, .named named found parsed gives⟩
            · exact .inr (.inr ⟨_, .noEntries named found parsed (not_exists.mp gives)⟩)

theorem Surroundings.Holds.fileEntries {file : List Assignment} (holds : surroundings.Holds file)
    (required : Bool) : surroundings.fileEntries required = .ok file := by
  unfold Surroundings.fileEntries
  cases holds with
  | unnamed named => rw [named]; rfl
  | named named found parsed gives =>
    rw [named]
    simp only [bind, Except.bind, found, entriesOfReading, parsed,
      entriesOfDocument_eq_ok_iff.mpr gives]

theorem Surroundings.Misconfigured.fileEntries {fault : LoadFault}
    (misconfigured : surroundings.Misconfigured fault) :
    surroundings.fileEntries true = .error fault := by
  unfold Surroundings.fileEntries
  cases misconfigured with
  | directory named found => simp only [named, bind, Except.bind, found]; rfl
  | @missing path named fault missing notTooLong =>
    simp only [named, bind, Except.bind, missing]
    cases fault with
    | nameTooLong text => exact absurd rfl (notTooLong text)
    | _ => rfl
  | malformed named found malformed =>
    simp only [named, bind, Except.bind, found, entriesOfReading, malformed]

theorem Surroundings.Unusable.fileEntries {fault : LoadFault}
    (unusable : surroundings.Unusable fault) (required : Bool) :
    surroundings.fileEntries required = .error fault := by
  unfold Surroundings.fileEntries
  cases unusable with
  | homeless homeless => rw [homeless]; rfl
  | nameTooLong named tooLong => simp only [named, bind, Except.bind, tooLong]; rfl
  | unread named found unread =>
    simp only [named, bind, Except.bind, found, entriesOfReading, unread]
  | @noEntries path named bytes found document parsed nothing =>
    have failed : entriesOfDocument document = .error .unusable := by
      cases read : entriesOfDocument document with
      | ok file => exact absurd (entriesOfDocument_eq_ok_iff.mp read) (nothing file)
      | error fault => rw [entriesOfDocument_eq_error read]
    simp only [named, bind, Except.bind, found, entriesOfReading, parsed, failed]

/-- The file gives its entries exactly where it is held. -/
theorem Surroundings.fileEntries_eq_ok_iff {file : List Assignment} :
    surroundings.fileEntries true = .ok file ↔ surroundings.Holds file := by
  constructor
  · intro read
    rcases surroundings.holds_or_fails with ⟨held, holds⟩ | ⟨fault, fails⟩ | ⟨fault, fails⟩
    · cases (holds.fileEntries true).symm.trans read
      exact holds
    · exact nomatch fails.fileEntries.symm.trans read
    · exact nomatch (fails.fileEntries true).symm.trans read
  · exact fun holds => holds.fileEntries true

end Typeahead.Config
