import Typeahead.Decimal.Binary64
import Typeahead.Text.Blank
import Typeahead.Text.Digit

/-!
# Reading numbers from texts

A run of digits may hold single underscores between two digits.  A whole number
is a run behind an optional sign.  A real number may have a point and an
exponent, and it may be the name of infinity or of what is no number.  Which
characters count as digits is the caller's choice.
-/

namespace Typeahead.Decimal

open Typeahead.Text

set_option autoImplicit false

/-- What an optional sign in front of a text says, and the text behind it. -/
def takeSign : List Char → Bool × List Char
  | '-' :: rest => (true, rest)
  | '+' :: rest => (false, rest)
  | rest => (false, rest)

/-- The digits behind a digit; an underscore must stand before another digit. -/
def moreDigits (digit? : Char → Option Nat) : List Char → List Nat × List Char
  | [] => ([], [])
  | '_' :: next :: rest =>
      match digit? next with
      | some value =>
          let more := moreDigits digit? rest
          (value :: more.1, more.2)
      | none => ([], '_' :: next :: rest)
  | c :: rest =>
      match digit? c with
      | some value =>
          let more := moreDigits digit? rest
          (value :: more.1, more.2)
      | none => ([], c :: rest)

/-- The run of digits at the beginning of a text, which may be empty, and the text behind it. -/
def takeDigits (digit? : Char → Option Nat) (text : List Char) : List Nat × List Char :=
  match text with
  | '_' :: _ => ([], text)
  | _ => moreDigits digit? text

/-- The integer with a sign and an absolute value. -/
def signed (negative : Bool) (absolute : Nat) : Int :=
  if negative then -absolute else absolute

/-- A whole number: a sign, if there is one, and a run of digits. -/
def readInteger? (digit? : Char → Option Nat) (text : List Char) : Option Int :=
  let signText := takeSign text
  match takeDigits digit? signText.2 with
  | ([], _) => none
  | (digits, []) => some (signed signText.1 (valueOfDigits 10 digits))
  | _ => none

/-- The longest run of digits that is read as a whole number. -/
def maxIntegerDigits : Nat := 4300

/-- A whole number in digits of any script, with white space around it. -/
def integerOfText? (text : String) : Option Int :=
  let trimmed := trimWhiteSpace text.toList
  if maxIntegerDigits < (takeDigits decimalValue? (takeSign trimmed).2).1.length then none
  else readInteger? decimalValue? trimmed

/-- The exponent at the end of a real number: nothing, or a mark and a whole number. -/
def readExponent? (digit? : Char → Option Nat) : List Char → Option Int
  | [] => some 0
  | c :: rest => if c = 'e' ∨ c = 'E' then readInteger? digit? rest else none

/-- The part of a real number behind its sign. -/
def readUnsigned? (digit? : Char → Option Nat) (negative : Bool) (text : List Char) :
    Option Binary64 :=
  let whole := takeDigits digit? text
  let fraction : List Nat × List Char :=
    match whole.2 with
    | '.' :: rest => takeDigits digit? rest
    | rest => ([], rest)
  if whole.1.isEmpty && fraction.1.isEmpty then none
  else
    (readExponent? digit? fraction.2).map fun exponent =>
      Binary64.ofDecimal negative (valueOfDigits 10 (whole.1 ++ fraction.1))
        (exponent - fraction.1.length)

/-- A real number, or the name of infinity or of what is no number, in either case. -/
def readReal? (digit? : Char → Option Nat) (text : List Char) : Option Binary64 :=
  let signText := takeSign text
  let name := String.ofList (signText.2.map Char.toLower)
  if name = "inf" ∨ name = "infinity" then some (Binary64.infinity signText.1)
  else if name = "nan" then
    some (Binary64.ofSign signText.1 Binary64.nan.magnitude)
  else readUnsigned? digit? signText.1 signText.2

/-- A real number in digits of any script, with white space around it. -/
def realOfText? (text : String) : Option Binary64 :=
  readReal? decimalValue? (trimWhiteSpace text.toList)

end Typeahead.Decimal
