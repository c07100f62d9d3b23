import Typeahead.Json.Value
import Typeahead.Text.Digit

/-!
# Writing JSON texts

In a string only the quote, the backslash and the control characters below
U+0020 are escaped; every other character stands for itself.  The compact form
has no space between tokens.  The indented form gives each member a line of its
own.
-/

namespace Typeahead.Json

open Typeahead.Text

set_option autoImplicit false

/-- One character of a string. -/
def escapeChar (c : Char) : List Char :=
  if c = '"' then ['\\', '"']
  else if c = '\\' then ['\\', '\\']
  else if c = '\n' then ['\\', 'n']
  else if c = '\r' then ['\\', 'r']
  else if c = '\t' then ['\\', 't']
  else if c = '\x08' then ['\\', 'b']
  else if c = '\x0c' then ['\\', 'f']
  else if c.toNat < 0x20 then '\\' :: 'u' :: hexDigits false 4 c.toNat
  else [c]

/-- A string between its quotes. -/
def writeString (text : String) : List Char :=
  '"' :: text.toList.flatMap escapeChar ++ ['"']

/-- A value that is no container. -/
def writeScalar : Value → List Char
  | .null => ['n', 'u', 'l', 'l']
  | .bool true => ['t', 'r', 'u', 'e']
  | .bool false => ['f', 'a', 'l', 's', 'e']
  | .integer value => (toString value).toList
  | .real value =>
      if value.isNaN then ['N', 'a', 'N']
      else if value.isInfinite then
        (if value.negative then ['-'] else []) ++ ['I', 'n', 'f', 'i', 'n', 'i', 't', 'y']
      else value.text.toList
  | .string text => writeString text
  | .array _ => ['[', ']']
  | .object _ => ['\x7b', '\x7d']

mutual

/-- The compact form of a value. -/
def writeValue : Value → List Char
  | .array items => '[' :: writeItems items ++ [']']
  | .object members => '\x7b' :: writeMembers members ++ ['\x7d']
  | value => writeScalar value

/-- Values with commas between them. -/
def writeItems : List Value → List Char
  | [] => []
  | [item] => writeValue item
  | item :: items => writeValue item ++ ',' :: writeItems items

/-- Members with commas between them. -/
def writeMembers : List (String × Value) → List Char
  | [] => []
  | [(name, value)] => writeString name ++ ':' :: writeValue value
  | (name, value) :: members =>
      writeString name ++ ':' :: writeValue value ++ ',' :: writeMembers members

end

/-- The compact text of a value. -/
def Value.compact (value : Value) : String :=
  String.ofList (writeValue value)

/-- An object with each member on a line of its own, two spaces in. -/
def indentedObject (members : List (String × Value)) : String :=
  let line (member : String × Value) : List Char :=
    ' ' :: ' ' :: writeString member.1 ++ ':' :: ' ' :: writeValue member.2
  String.ofList
    (['\x7b', '\n'] ++ (List.intersperse [',', '\n'] (members.map line)).flatten ++ ['\n', '\x7d'])

end Typeahead.Json
