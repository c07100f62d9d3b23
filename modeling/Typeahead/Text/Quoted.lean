import Typeahead.Text.Digit
import Typeahead.Text.Unprintable

/-!
# Quoted texts

Messages show a text between quotes.  Single quotes are used unless the text
holds a single quote and no double quote.  The quote in use and the backslash
are escaped, as are the characters that do not print.
-/

namespace Typeahead.Text

set_option autoImplicit false

/-- The quote that a text is shown in. -/
def quoteFor (text : List Char) : Char :=
  if text.contains '\'' && !text.contains '"' then '"' else '\''

/-- One character of a text that stands between the given quotes. -/
def quoteChar (quote c : Char) : List Char :=
  if c = quote ∨ c = '\\' then ['\\', c]
  else if c = '\n' then ['\\', 'n']
  else if c = '\r' then ['\\', 'r']
  else if c = '\t' then ['\\', 't']
  else if isUnprintable c then
    if c.toNat < 0x100 then '\\' :: 'x' :: hexDigits false 2 c.toNat
    else if c.toNat < 0x10000 then '\\' :: 'u' :: hexDigits false 4 c.toNat
    else '\\' :: 'U' :: hexDigits false 8 c.toNat
  else [c]

/-- A text as messages show it. -/
def quoted (text : String) : String :=
  let quote := quoteFor text.toList
  String.ofList (quote :: text.toList.flatMap (quoteChar quote) ++ [quote])

end Typeahead.Text
