import Typeahead.Json.Value
import Typeahead.Text.Quoted

/-!
# Showing JSON values to a reader

A list of suggestions should hold texts.  Whatever else it holds is shown as a
text too: the three constants by their names, containers with a space behind
each comma and colon, and the texts inside containers in quotes.
-/

namespace Typeahead.Json

open Typeahead.Text

set_option autoImplicit false

mutual

/-- A value as it is shown inside a container. -/
def showValue : Value → String
  | .null => "None"
  | .bool true => "True"
  | .bool false => "False"
  | .integer value => toString value
  | .real value => value.text
  | .string text => quoted text
  | .array items => "[" ++ ", ".intercalate (showItems items) ++ "]"
  | .object members =>
      let shown := (distinctMembers (showMembers members)).map fun member =>
        quoted member.1 ++ ": " ++ member.2
      "\x7b" ++ ", ".intercalate shown ++ "\x7d"

/-- The values of an array. -/
def showItems : List Value → List String
  | [] => []
  | item :: items => showValue item :: showItems items

/-- The members of an object. -/
def showMembers : List (String × Value) → List (String × String)
  | [] => []
  | (name, value) :: members => (name, showValue value) :: showMembers members

end

/-- A value as a text; a text is itself. -/
def displayText : Value → String
  | .string text => text
  | value => showValue value

end Typeahead.Json
