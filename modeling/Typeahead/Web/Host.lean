import Typeahead.Text.Digit

/-!
# Numeric host names

A host that is written as four numbers, or in square brackets, must be a valid
address of the older or of the newer kind.
-/

namespace Typeahead.Web

open Typeahead.Text

set_option autoImplicit false

/-- Runs of digits with single characters of any kind between them: the text holds `gaps` such
characters, and a digit has been seen since the last one if `begun`. -/
def isNumericRun (gaps : Nat) (begun : Bool) : List Char → Bool
  | [] => gaps == 0 && begun
  | c :: rest =>
      (isAsciiDigit c && isNumericRun gaps true rest) ||
        (begun && decide (0 < gaps) && isNumericRun (gaps - 1) false rest)

/-- A host that claims to be four numbers. -/
def looksLikeFourNumbers (host : List Char) : Bool :=
  isNumericRun 3 false host

/-- A number up to 255 without a needless zero in front. -/
def isOctet (text : List Char) : Bool :=
  !text.isEmpty && text.length ≤ 3 && text.all isAsciiDigit &&
    (text.length == 1 || text.head? != some '0') &&
    decide (valueOfDigits 10 (text.filterMap asciiDigit?) ≤ 255)

/-- Four numbers with points between them. -/
def isFourOctets (host : List Char) : Bool :=
  let parts := host.splitOn '.'
  parts.length == 4 && parts.all isOctet

/-- One to four hexadecimal digits. -/
def isGroup (text : List Char) : Bool :=
  !text.isEmpty && text.length ≤ 4 && text.all fun c => (hexDigit? c).isSome

/-- Groups with colons between them, where the last two groups may be written as four numbers. -/
def groupsOf (text : List Char) : Option (List (List Char)) :=
  let parts := text.splitOn ':'
  match parts.getLast? with
  | some last =>
      if last.contains '.' then
        if isFourOctets last then some (parts.dropLast ++ [['0'], ['0']]) else none
      else some parts
  | none => none

/-- Eight groups, or fewer with one gap for the groups that are zero. -/
def areGroups (groups : List (List Char)) : Bool :=
  let inner := (groups.drop 1).dropLast
  let gaps := (inner.filter List.isEmpty).length
  let shown := groups.filter fun group => !group.isEmpty
  let opens := (groups.head?.getD []).isEmpty
  let closes := (groups.getLast?.getD []).isEmpty
  let gapFirst := (inner.head?.getD ['0']).isEmpty
  let gapLast := (inner.getLast?.getD ['0']).isEmpty
  3 ≤ groups.length && shown.all isGroup &&
    (if gaps = 1 then
      shown.length ≤ 7 && (!opens || gapFirst) && (!closes || gapLast)
    else gaps == 0 && !opens && !closes && groups.length == 8)

/-- A valid address in brackets, given without them; a zone may follow a percent sign. -/
def isBracketed (text : List Char) : Bool :=
  let zone := text.dropWhile (· != '%')
  let zoneFine := zone.isEmpty || (1 < zone.length && !(zone.drop 1).contains '%')
  zoneFine && match groupsOf (text.takeWhile (· != '%')) with
    | some groups => areGroups groups
    | none => false

end Typeahead.Web
