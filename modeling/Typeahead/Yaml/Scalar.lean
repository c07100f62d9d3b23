import Typeahead.Decimal.Literal
import Typeahead.Yaml.Node

/-!
# The types of scalars

The text of a plain scalar tells its type.  Truth values are written in words;
integers in base two, eight, ten or sixteen, or as a run of sexagesimal places;
real numbers need a point, and a sign in front of an exponent.  Underscores in
numbers count for nothing.
-/

namespace Typeahead.Yaml

open Typeahead.Decimal Typeahead.Text

set_option autoImplicit false

/-- The types of scalars. -/
inductive Kind where
  | truth
  | real
  | integer
  | merge
  | null
  | time
  /-- the type of a lone equals sign, which stands for nothing -/
  | equals
  | text
  | binary
  deriving DecidableEq, Repr, Inhabited

/-! ## What plain texts look like -/

/-- A digit of a base. -/
def isDigitBelow (base : Nat) (c : Char) : Bool :=
  match hexDigit? c with
  | some value => decide (value < base)
  | none => false

/-- One or more digits of a base and underscores. -/
def isRun (base : Nat) (text : List Char) : Bool :=
  !text.isEmpty && text.all fun c => c == '_' || isDigitBelow base c

/-- A digit and then digits and underscores. -/
def isNumberRun (text : List Char) : Bool :=
  match text with
  | c :: rest => isAsciiDigit c && rest.all fun c => c == '_' || isAsciiDigit c
  | [] => false

/-- A text without the sign in front of it. -/
def unsigned (text : List Char) : List Char := (takeSign text).2

/-- A sexagesimal place behind the first one. -/
def isPlace (text : List Char) : Bool :=
  match text with
  | [c] => isAsciiDigit c
  | [c, d] => isDigitBelow 6 c && isAsciiDigit d
  | _ => false

/-- Several sexagesimal places. -/
def arePlaces (startsWell : List Char → Bool) (text : List Char) : Bool :=
  match text.splitOn ':' with
  | first :: places => startsWell first && !places.isEmpty && places.all isPlace
  | [] => false

/-- An exponent with a sign, or nothing. -/
def isExponent (text : List Char) : Bool :=
  match text with
  | [] => true
  | c :: sign :: digits =>
      (c == 'e' || c == 'E') && (sign == '+' || sign == '-') && !digits.isEmpty &&
        digits.all isAsciiDigit
  | _ => false

/-- Digits and underscores, and then perhaps an exponent. -/
def isFraction (text : List Char) : Bool :=
  isExponent (text.dropWhile fun c => c == '_' || isAsciiDigit c)

/-- The text of a real number. -/
def looksReal (text : List Char) : Bool :=
  let bare := unsigned text
  let name := String.ofList bare
  let parts := splitPoint bare
  (match parts with
    | (whole, some fraction) =>
        (isNumberRun whole && isFraction fraction) ||
          (arePlaces isNumberRun whole &&
            fraction.all fun c => c == '_' || isAsciiDigit c)
    | _ => false) ||
    (match text with
      | '.' :: fraction => (fraction.head?.map isAsciiDigit).getD false && isFraction fraction
      | _ => false) ||
    [".inf", ".Inf", ".INF"].contains name ||
    [".nan", ".NaN", ".NAN"].contains (String.ofList text)
where
  /-- The text before the first point and the text behind it. -/
  splitPoint (text : List Char) : List Char × Option (List Char) :=
    match text.dropWhile (· != '.') with
    | [] => (text, none)
    | _ :: rest => (text.takeWhile (· != '.'), some rest)

/-- The text of an integer. -/
def looksInteger (text : List Char) : Bool :=
  match unsigned text with
  | '0' :: 'b' :: digits => isRun 2 digits
  | '0' :: 'x' :: digits => isRun 16 digits
  | ['0'] => true
  | '0' :: digits => isRun 8 digits
  | bare =>
      let startsWell (run : List Char) : Bool :=
        isNumberRun run && run.head? != some '0'
      startsWell bare || arePlaces startsWell bare

/-- The parts of a time in figures. -/
structure TimeText where
  year : Nat
  month : Nat
  day : Nat
  /-- hour, minute and second, unless the time is a mere date -/
  clock : Option (Nat × Nat × Nat) := none
  /-- hour and minute of the zone -/
  zone : Nat × Nat := (0, 0)
  deriving DecidableEq, Repr, Inhabited

/-- A number of so many digits in front of a text. -/
def takeNumber? (least most : Nat) (text : List Char) : Option (Nat × List Char) :=
  let digits := (text.takeWhile isAsciiDigit).take most
  if digits.length < least then none
  else some (valueOfDigits 10 (digits.filterMap asciiDigit?), text.drop digits.length)

/-- A character in front of a text. -/
def takeMark? (mark : Char) (text : List Char) : Option (List Char) :=
  if text.head? = some mark then some (text.drop 1) else none

/-- The zone at the end of a time. -/
def readZone? (text : List Char) : Option (Nat × Nat) :=
  match text.dropWhile fun c => c == ' ' || c == '\t' with
  | [] => if text.isEmpty then some (0, 0) else none
  | ['Z'] => some (0, 0)
  | c :: rest =>
      if c = '+' ∨ c = '-' then do
        let (hour, rest) ← takeNumber? 1 2 rest
        match rest with
        | [] => some (hour, 0)
        | ':' :: rest =>
            let (minute, rest) ← takeNumber? 2 2 rest
            if rest.isEmpty then some (hour, minute) else none
        | _ => none
      else none

/-- The text of a time: a date in full figures, or a date and a clock. -/
def readTime? (text : List Char) : Option TimeText := do
  let (year, rest) ← takeNumber? 4 4 text
  let rest ← takeMark? '-' rest
  let (month, afterMonth) ← takeNumber? 1 2 rest
  let rest' ← takeMark? '-' afterMonth
  let (day, afterDay) ← takeNumber? 1 2 rest'
  if afterDay.isEmpty then
    if text.length == 10 then some { year, month, day } else none
  else do
    let blanks := afterDay.takeWhile fun c => c == ' ' || c == '\t'
    let rest ←
      if blanks.isEmpty then
        (if afterDay.head? == some 'T' || afterDay.head? == some 't' then some (afterDay.drop 1)
          else none)
      else some (afterDay.drop blanks.length)
    let (hour, rest) ← takeNumber? 1 2 rest
    let rest ← takeMark? ':' rest
    let (minute, rest) ← takeNumber? 2 2 rest
    let rest ← takeMark? ':' rest
    let (second, rest) ← takeNumber? 2 2 rest
    let rest := match rest with
      | '.' :: fraction => fraction.dropWhile isAsciiDigit
      | rest => rest
    let zone ← readZone? rest
    return { year, month, day, clock := some (hour, minute, second), zone }

/-- The words for truth values. -/
def truthWords : List (String × Bool) :=
  [("yes", true), ("no", false), ("true", true), ("false", false), ("on", true), ("off", false)]

/-- A word in small letters, in capitals, or with one capital in front. -/
def spellings (word : String) : List String :=
  let small := word.toList
  [word, String.ofList (small.map Char.toUpper),
    String.ofList (((small.take 1).map Char.toUpper) ++ small.drop 1)]

/-- The type that the text of a plain scalar tells. -/
def kindOfPlain (text : String) : Kind :=
  let characters := text.toList
  if (truthWords.flatMap fun word => spellings word.1).contains text then .truth
  else if looksReal characters then .real
  else if looksInteger characters then .integer
  else if text = "<<" then .merge
  else if text = "" ∨ text = "~" ∨ (spellings "null").contains text then .null
  else if (readTime? characters).isSome then .time
  else if text = "=" then .equals
  else .text

/-! ## What they are worth -/

/-- A text without its underscores. -/
def withoutUnderscores (text : List Char) : List Char := text.filter (· != '_')

/-- The sum of sexagesimal places.  It is made from the last place on, and rounded after each. -/
def sumOfPlaces (places : List Binary64) : Binary64 :=
  (places.foldr (fun place (sum : Binary64 × Nat) =>
    let worth := Binary64.ofRat (place.value * sum.2)
    (Binary64.ofRat (sum.1.value + worth.value), sum.2 * 60)) (Binary64.ofInt 0, 1)).1

/-- The integer that digits of a base write; there must be some. -/
def integerInBase? (base : Nat) (text : List Char) : Option Nat :=
  let digits := text.mapM fun c => (hexDigit? c).filter fun value => decide (value < base)
  match digits with
  | some (first :: rest) => some (valueOfDigits base (first :: rest))
  | _ => none

/-- The value of the text of an integer. -/
def integerOf (text : String) : Except Fault Int :=
  let signText := takeSign (withoutUnderscores text.toList)
  let absolute : Option Nat :=
    match signText.2 with
    | ['0'] => some 0
    | '0' :: 'b' :: digits => integerInBase? 2 digits
    | '0' :: 'x' :: digits => integerInBase? 16 digits
    | '0' :: 'o' :: digits => integerInBase? 8 digits
    | '0' :: digits => integerInBase? 8 ('0' :: digits)
    | bare =>
        if bare.contains ':' then
          ((bare.splitOn ':').mapM (integerInBase? 10)).map fun places =>
            places.foldl (fun value place => value * 60 + place) 0
        else if maxIntegerDigits < bare.length then none
        else integerInBase? 10 bare
  match absolute with
  | some absolute => .ok (signed signText.1 absolute)
  | none => .error .unusable

/-- The value of the text of a real number. -/
def realOf (text : String) : Except Fault Binary64 :=
  let small := (withoutUnderscores text.toList).map Char.toLower
  let signText := takeSign small
  let name := String.ofList signText.2
  let oneReal (text : List Char) : Option Binary64 := readReal? asciiDigit? text
  let value : Option Binary64 :=
    if name = ".inf" then some (Binary64.infinity signText.1)
    else if name = ".nan" then some Binary64.nan
    else if signText.2.contains ':' then
      ((signText.2.splitOn ':').mapM oneReal).map fun places =>
        let total := sumOfPlaces places
        Binary64.ofSign (signText.1 != total.negative) total.magnitude
    else (oneReal signText.2).map fun real => Binary64.ofSign signText.1 real.magnitude
  match value with
  | some value => .ok value
  | none => .error .unusable

/-- The word for a truth value in any case. -/
def truthOf (text : String) : Except Fault Bool :=
  let small := String.ofList (text.toList.map Char.toLower)
  match truthWords.find? fun word => word.1 == small with
  | some word => .ok word.2
  | none => .error .unusable

/-- How many days a month has. -/
def daysIn (year month : Nat) : Nat :=
  if month = 2 then
    if year % 4 = 0 ∧ (year % 100 ≠ 0 ∨ year % 400 = 0) then 29 else 28
  else if [4, 6, 9, 11].contains month then 30
  else 31

/-- The time exists. -/
def TimeText.isValid (time : TimeText) : Bool :=
  1 ≤ time.year && 1 ≤ time.month && time.month ≤ 12 && 1 ≤ time.day &&
    time.day ≤ daysIn time.year time.month &&
    (match time.clock with
      | none => true
      | some (hour, minute, second) => hour < 24 && minute < 60 && second < 60) &&
    time.zone.1 * 60 + time.zone.2 < 24 * 60

end Typeahead.Yaml
