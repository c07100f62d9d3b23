import Typeahead.Text.Digit

/-!
# Writing moments

A moment is a number of seconds since the beginning of 1970.  It is written as
a date and a time of day in coordinated universal time; parts of a second are
written with six digits, if there are any.
-/

namespace Typeahead.Schedule

open Typeahead.Text

set_option autoImplicit false

/-- The last `width` decimal digits of a number. -/
def decimalDigits : Nat → Nat → List Char
  | 0, _ => []
  | width + 1, value => decimalDigits width (value / 10) ++ [hexDigit false (value % 10)]

/-- A date. -/
structure Date where
  year : Nat
  month : Nat
  day : Nat
  deriving DecidableEq, Repr, Inhabited

/-- The date that lies so many days after the first of March of the year zero.  Years are counted
from March on here, so that a leap day is the last day of its year; 146097 days make a cycle of four
hundred years. -/
def dateOfDays (days : Nat) : Date :=
  let cycle := days / 146097
  let inCycle := days % 146097
  let year := (inCycle - inCycle / 1460 + inCycle / 36524 - inCycle / 146096) / 365
  let inYear := inCycle - (365 * year + year / 4 - year / 100)
  let month := (5 * inYear + 2) / 153
  let day := inYear - (153 * month + 2) / 5 + 1
  { year := 400 * cycle + year + (if month < 10 then 0 else 1)
    month := if month < 10 then month + 3 else month - 9
    day }

/-- How many days lie between the first of March of the year zero and the beginning of 1970. -/
def daysBefore1970 : Nat := 719468

/-- A moment as a text. -/
def momentText (moment : Rat) : String :=
  let micros := (moment * 1000000).floor.toNat
  let seconds := micros / 1000000
  let date := dateOfDays (seconds / 86400 + daysBefore1970)
  let fraction := micros % 1000000
  String.ofList (decimalDigits 4 date.year ++ '-' :: decimalDigits 2 date.month ++
    '-' :: decimalDigits 2 date.day ++ 'T' :: decimalDigits 2 (seconds / 3600 % 24) ++
    ':' :: decimalDigits 2 (seconds / 60 % 60) ++ ':' :: decimalDigits 2 (seconds % 60) ++
    (if fraction = 0 then [] else '.' :: decimalDigits 6 fraction) ++ ['Z'])

end Typeahead.Schedule
