import Typeahead.Config.Sources
import Typeahead.Files.Tree
import Typeahead.Yaml.Document

/-!
# Loading the settings

The environment gives settings by variables with a common beginning, and it can
name a file that gives more.  The file holds one YAML document, which is empty,
maps keys to values, or lists keys with their values.  What the reader of YAML
makes of a file is left open (`Surroundings.reader`): it can fail in ways that
are no matter of the language, such as a stack that is too small for the file.

An override whose key begins with an underscore is no setting but a parameter of
the loading itself.  What such parameters do is not told here; they are refused.
-/

namespace Typeahead.Config

open Typeahead.Files Typeahead.Text

set_option autoImplicit false

/-- Variables with their values. -/
abbrev Variables : Type := List (String × String)

/-- How the names of all variables of the program begin. -/
def variableStem : String := "names_search_"

/-- The variable that names the file. -/
def fileVariable : String := "NAMES_SEARCH_CONFIG"

/-- The key that a variable gives, if its name begins as it should. -/
def keyOfVariable? (name : String) : Option String :=
  let stem := variableStem.toList
  let small := name.toList.map smallLetter
  if stem.isPrefixOf small then some (String.ofList (small.drop stem.length)) else none

/-- The settings that variables give. -/
def entriesOfVariables (environment : Variables) : List Assignment :=
  environment.filterMap fun entry =>
    (keyOfVariable? entry.1).map fun key => (key, .text entry.2)

/-- Why settings could not be loaded. -/
inductive LoadFault where
  | home (fault : HomeFault)
  | missingFile (path : String)
  /-- the file cannot even be looked for -/
  | lookup (fault : OpenFault)
  /-- the file is no YAML text -/
  | malformed
  /-- the file holds bytes or values of which no settings can be made -/
  | unusable
  /-- an override is a parameter of the loading -/
  | parameter (key : String)
  | invalid (complaints : List Complaint)
  deriving DecidableEq, Repr, Inhabited

/-- What is said about settings that could not be loaded. -/
def LoadFault.message : LoadFault → String
  | .home fault => fault.message
  | .missingFile path => "Config file " ++ path ++ " does not exist"
  | .lookup fault => fault.message
  | .malformed => "Invalid configuration: the config file is not YAML"
  | .unusable => "The config file does not hold settings"
  | .parameter key => "Not a setting but a parameter: " ++ key
  | .invalid complaints =>
      "Invalid configuration: " ++ "\n".intercalate (complaints.map Complaint.message)

/-- The fault is reported as one of the configuration; the others are not expected. -/
def LoadFault.isConfiguration : LoadFault → Bool
  | .missingFile _ => true
  | .malformed => true
  | .invalid _ => true
  | _ => false

/-! ## The file -/

/-- A value of the file.  A text with halves of pairs of surrogates counts as bytes that spell no
text, those of such a half. -/
def rawOfYaml : Yaml.Value → Raw
  | .scalar .null => .null
  | .scalar (.truth value) => .truth value
  | .scalar (.integer value) => .integer value
  | .scalar (.real value) => .real value
  | .scalar (.text value) => .text value
  | .scalar (.halved _) => .bytes [0xED, 0xA0, 0x80]
  | .scalar (.bytes value) => .bytes value
  | _ => .other

/-- A scalar that counts as an empty document. -/
def isEmptyScalar : Yaml.Scalar → Bool
  | .null => true
  | .truth value => !value
  | .integer value => value == 0
  | .real value => value.magnitude == 0
  | .text value => value.isEmpty
  | .halved _ => false
  | .time _ => false
  | .bytes value => value.isEmpty

/-- The text of a scalar, if it is one; what is shown of halves of characters is no part of any
key of a setting. -/
def textOf? : Yaml.Scalar → Option String
  | .text value => some value
  | .halved shown => some shown
  | _ => none

/-- The entry of a key, which must be a text. -/
def entryOf (key : Yaml.Scalar) (value : Yaml.Value) : Except LoadFault Assignment :=
  match textOf? key with
  | some text => .ok (text, rawOfYaml value)
  | none => .error .unusable

/-- The two things that an item of a list of entries brings: its own items, its keys, its members or
its characters.  A list inside itself brings its own items once more. -/
def twoOf? (items : List Yaml.Value) : Yaml.Value → Option (Yaml.Value × Yaml.Value)
  | .sequence [first, second] => some (first, second)
  | .mapping [(first, _), (second, _)] => some (.scalar first, .scalar second)
  | .set [first, second] => some (.scalar first, .scalar second)
  | .scalar scalar =>
      match (textOf? scalar).map String.toList with
      | some [first, second] =>
          some (.scalar (.text (String.singleton first)), .scalar (.text (String.singleton second)))
      | _ => none
  | .loop =>
      match items with
      | [first, second] => some (first, second)
      | _ => none
  | _ => none

/-- The entry that an item of a list of entries gives. -/
def entryOfItem (items : List Yaml.Value) (item : Yaml.Value) : Except LoadFault Assignment :=
  match twoOf? items item with
  | some (.scalar key, value) => entryOf key value
  | _ => .error .unusable

/-- The settings in a document. -/
def entriesOfDocument : Yaml.Value → Except LoadFault (List Assignment)
  | .scalar scalar => if isEmptyScalar scalar then .ok [] else .error .unusable
  | .sequence items => items.mapM (entryOfItem items)
  | .set members => members.mapM fun member => entryOfItem [] (.scalar member)
  | .mapping entries => entries.mapM fun entry => entryOf entry.1 entry.2
  | .loop => .error .unusable

/-- The settings in a file, given what the reader of YAML has made of it. -/
def entriesOfReading : Except Yaml.Fault Yaml.Value → Except LoadFault (List Assignment)
  | .error .malformed => .error .malformed
  | .error .unusable => .error .unusable
  | .ok document => entriesOfDocument document

/-! ## Loading -/

/-- What settings are loaded from, besides the overrides. -/
structure Surroundings where
  environment : Variables := []
  files : Tree := {}
  homes : Homes
  /-- what the reader of YAML makes of the bytes of a file -/
  reader : List UInt8 → Except Yaml.Fault Yaml.Value := Yaml.readFile

/-- The path of the file, if one is named. -/
def Surroundings.filePath (surroundings : Surroundings) : Except LoadFault (Option Path) :=
  match surroundings.environment.find? fun entry => entry.1 == fileVariable with
  | none => .ok none
  | some (_, text) =>
      if text.isEmpty then .ok none
      else
        match (Path.ofText text).expand surroundings.homes with
        | .ok path => .ok (some path)
        | .error fault => .error (.home fault)

/-- The settings in the file.  A file that is named must be there, if it is required. -/
def Surroundings.fileEntries (surroundings : Surroundings) (required : Bool) :
    Except LoadFault (List Assignment) := do
  match ← surroundings.filePath with
  | none => return []
  | some path =>
      match surroundings.files.find path with
      | .ok (.file bytes) => entriesOfReading (surroundings.reader bytes)
      | .error (.nameTooLong text) => throw (.lookup (.nameTooLong text))
      | _ => if required then throw (.missingFile path.text) else return []

/-- A key that is no setting but a parameter of the loading. -/
def isParameter (key : String) : Bool := key.toList.head? == some '_'

/-- Settings from given values, the environment and the file. -/
def settle (surroundings : Surroundings) (required : Bool) (given : List Assignment) :
    Except LoadFault Settings := do
  match given.find? fun entry => isParameter entry.1 with
  | some entry => throw (.parameter entry.1)
  | none =>
      let file ← surroundings.fileEntries required
      let sources : Sources :=
        { overrides := given, environment := entriesOfVariables surroundings.environment, file }
      match sources.settings with
      | .ok settings => return settings
      | .error complaints => throw (.invalid complaints)

/-- Loads the settings.  An override that is null leaves its setting to the other sources. -/
def load (surroundings : Surroundings) (overrides : List Assignment) : Except LoadFault Settings :=
  settle surroundings true (overrides.filter fun entry => entry.2 != .null)

/-- Makes settings of given values; here a null is a value, and no file needs to be there. -/
def make (surroundings : Surroundings) (given : List Assignment) : Except LoadFault Settings :=
  settle surroundings false given

end Typeahead.Config
