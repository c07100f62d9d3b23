import Typeahead.Json.Reader
import Typeahead.Notice
import Typeahead.Text.Blank
import Typeahead.Text.Quoted

/-!
# Rows of a catalog

A catalog lists one package a line, each as a JSON object with a comma behind
it.  The name of the package is the member `id`, or `name` where there is no
`id`; a row without either names the empty text.  Blank lines and the line that
closes the list hold no row.
-/

namespace Typeahead.Catalog

open Typeahead.Json Typeahead.Text

set_option autoImplicit false

/-- A row may hold two hundred containers inside one another, and 4300 digits before a point. -/
def rowLimits : Limits := ⟨200, 4300, some 4300⟩

/-- Why a row is refused. -/
inductive RowFault where
  | notJson
  | notAnObject
  | nameNotText
  deriving DecidableEq, Repr, Inhabited

/-- The reason that is reported. -/
def RowFault.reason : RowFault → String
  | .notJson => "Invalid JSON"
  | .notAnObject => "Input should be an object"
  | .nameNotText => "Input should be a valid string"

/-- A line that holds no row although it should. -/
structure MalformedRow where
  line : String
  reason : String
  deriving DecidableEq, Repr, Inhabited

/-- What is said about a malformed line; an empty reason is left out. -/
def MalformedRow.message (row : MalformedRow) : String :=
  "Malformed catalog line: " ++ quoted row.line ++
    if row.reason.isEmpty then "" else " (" ++ row.reason ++ ")"

/-- The notice about a malformed line. -/
def MalformedRow.notice (row : MalformedRow) : Notice :=
  ⟨.error, "There was an error parsing the catalog line: " ++ row.line ++ " (" ++ row.reason ++ ")"⟩

/-- A line without the blanks around it and without one comma at its end. -/
def rowText (line : String) : List Char :=
  let trimmed := trimBlank line.toList
  if trimmed.getLast? = some ',' then trimmed.dropLast else trimmed

/-- The name in a row: its `id`, else its `name`, else nothing. -/
def nameOfMembers (members : List (String × Value)) : Except RowFault String :=
  match (lastMember? "id" members).orElse fun _ => lastMember? "name" members with
  | none => .ok ""
  | some (.string name) => .ok name
  | some _ => .error .nameNotText

/-- The name in the text of a row.  The whole text is read before any value is looked at. -/
def nameOfRow (text : List Char) : Except RowFault String :=
  match read rowLimits text with
  | .error _ => .error .notJson
  | .ok (.object members) => nameOfMembers members
  | .ok _ => .error .notAnObject

/-- The line closes the list of rows. -/
def closesRows (text : List Char) : Bool :=
  text.take 2 == [']', '\x7d']

/-- The name on a line, if the line holds a row. -/
def parseRow (line : String) : Except MalformedRow (Option String) :=
  let text := rowText line
  if text.isEmpty then .ok none
  else
    match nameOfRow text with
    | .ok name => .ok (some name)
    | .error fault =>
        if closesRows text then .ok none
        else .error ⟨String.ofList text, fault.reason⟩

end Typeahead.Catalog
