/-!
# Cutting a text into lines

A cutter is fed one character at a time.  A carriage return is held back until
the next character shows whether a line feed belongs to it.  Which further
characters end a line is a parameter: files know the line feed and the carriage
return only, a response body knows every line boundary of the Unicode standard
and the separators U+001C to U+001E.  A line is given without its end.
-/

namespace Typeahead.Text

set_option autoImplicit false

/-- The state of a cutter between two characters. -/
structure Cutter where
  /-- the unfinished line, its last character first -/
  line : List Char := []
  /-- the last character was a carriage return, which has ended the line -/
  returned : Bool := false
  deriving DecidableEq, Repr, Inhabited

/-- The ends of a line in a file, besides the carriage return. -/
def endsFileLine (c : Char) : Bool :=
  c == '\n'

/-- The ends of a line in a response body, besides the carriage return. -/
def endsBodyLine (c : Char) : Bool :=
  let code := c.toNat
  (0x0A ≤ code && code ≤ 0x0C) || (0x1C ≤ code && code ≤ 0x1E) || code == 0x85 ||
    code == 0x2028 || code == 0x2029

/-- The line that a cutter holds. -/
def Cutter.text (cutter : Cutter) : List Char :=
  cutter.line.reverse

/-- A character at which no carriage return is held back. -/
def Cutter.take (ends : Char → Bool) (line : List Char) (c : Char) : List (List Char) × Cutter :=
  if c = '\r' then ([], ⟨line, true⟩)
  else if ends c then ([line.reverse], {})
  else ([], ⟨c :: line, false⟩)

/-- One more character: the lines it completes and the new state. -/
def Cutter.step (ends : Char → Bool) (cutter : Cutter) (c : Char) : List (List Char) × Cutter :=
  if cutter.returned then
    if c = '\n' then ([cutter.text], {})
    else
      let next := Cutter.take ends [] c
      (cutter.text :: next.1, next.2)
  else Cutter.take ends cutter.line c

/-- Feeds a text to a cutter. -/
def Cutter.feed (ends : Char → Bool) : Cutter → List Char → List (List Char) × Cutter
  | cutter, [] => ([], cutter)
  | cutter, c :: text =>
      let first := cutter.step ends c
      let rest := Cutter.feed ends first.2 text
      (first.1 ++ rest.1, rest.2)

/-- What is left when the text ends: a line that has begun or that a carriage return has ended. -/
def Cutter.finish (cutter : Cutter) : List (List Char) :=
  if cutter.line.isEmpty && !cutter.returned then [] else [cutter.text]

/-- The lines of a whole text. -/
def linesBy (ends : Char → Bool) (text : List Char) : List (List Char) :=
  let fed := Cutter.feed ends {} text
  fed.1 ++ fed.2.finish

/-- A text without a line feed at its end. -/
def dropLastFeed (text : List Char) : List Char :=
  if text.getLast? = some '\n' then text.dropLast else text

end Typeahead.Text
