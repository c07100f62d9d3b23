import Typeahead.Config.Problem
import Typeahead.Config.Raw
import Typeahead.Decimal.Literal
import Typeahead.Text.Utf8

/-!
# Reading raw values

A raw value is read as a text, an integer, a real number, a truth value or one
of some choices.  Numbers and truth values can be given by their texts and can
stand in for each other where nothing is lost, and bytes stand for the text that
they spell.
-/

namespace Typeahead.Config

open Typeahead.Decimal Typeahead.Text

set_option autoImplicit false

/-- The text that bytes spell. -/
def spelledBy? (bytes : List UInt8) : Option String :=
  (decode? bytes).map String.ofList

/-- Reads the text that bytes spell, if they spell one. -/
def readSpelled {α : Type} (readText : String → Except Problem α) (unreadable : Problem)
    (bytes : List UInt8) : Except Problem α :=
  match spelledBy? bytes with
  | some spelled => readText spelled
  | none => .error unreadable

/-- Reads a text. -/
def Raw.toText : Raw → Except Problem String
  | .text spelled => .ok spelled
  | .bytes value => readSpelled .ok .badBytes value
  | _ => .error .notText

/-! ## Integers -/

/-- A text without the zeros in front of its first other digit, and without the underscores among
them.  Where no other digit follows, the last of these characters stays. -/
def dropLeadingZeros (text : List Char) : List Char :=
  let zeros := text.takeWhile fun c => c == '0' || c == '_'
  let rest := text.drop zeros.length
  if text.head? != some '0' then text
  else if (rest.head?.bind asciiDigit?).isSome then rest
  else zeros.drop (zeros.length - 1) ++ rest

/-- A point with zeros behind it, or nothing. -/
def isEmptyFraction : List Char → Bool
  | [] => true
  | '.' :: zeros => !zeros.isEmpty && zeros.all (· == '0')
  | _ => false

/-- An integer in a text: white space around it, a sign, digits, and perhaps a point with nothing
but zeros behind it.  Behind a minus sign no zero stands in front of another digit. -/
def readIntegerText (text : String) : Except Problem Int :=
  let signText := takeSign (trimWhiteSpace text.toList)
  let negative := signText.1
  let run := takeDigits asciiDigit? (if negative then signText.2 else dropLeadingZeros signText.2)
  if maxIntegerDigits < run.1.length then .error .integerTooLarge
  else if run.1.isEmpty || (1 < run.1.length && run.1.head? == some 0) || !isEmptyFraction run.2 then
    .error .noIntegerInText
  else .ok (signed negative (valueOfDigits 10 run.1))

/-- A real number that is an integer of fewer than 64 bits. -/
def wholeOf (real : Binary64) : Except Problem Int :=
  if !real.isFinite then .error .notFinite
  else
    match real.toInt? with
    | none => .error .notWhole
    | some value => if value.natAbs < 0x8000000000000000 then .ok value else .error .integerTooLarge

/-- Reads an integer. -/
def Raw.toInteger : Raw → Except Problem Int
  | .integer value => .ok value
  | .truth value => .ok (if value then 1 else 0)
  | .real value => wholeOf value
  | .text spelled => readIntegerText spelled
  | .bytes value => readSpelled readIntegerText .noIntegerInText value
  | _ => .error .notInteger

/-! ## Real numbers -/

/-- Underscores stand one by one inside a text. -/
def areUnderscoresInside : List Char → Bool
  | [] => true
  | ['_'] => false
  | '_' :: '_' :: _ => false
  | _ :: rest => areUnderscoresInside rest

/-- A text without its underscores, if they stand one by one inside it. -/
def dropUnderscores? (text : List Char) : Option (List Char) :=
  if text.head? != some '_' && areUnderscoresInside text then some (text.filter (· != '_'))
  else none

/-- A real number in a text, with white space around it. -/
def readRealText (text : String) : Except Problem Binary64 :=
  match (dropUnderscores? (trimWhiteSpace text.toList)).bind (readReal? asciiDigit?) with
  | some value => .ok value
  | none => .error .noRealInText

/-- Reads a real number; an integer past the finite numbers is none. -/
def Raw.toReal : Raw → Except Problem Binary64
  | .real value => .ok value
  | .integer value =>
      let real := Binary64.ofInt value
      if real.isFinite then .ok real else .error .notReal
  | .truth value => .ok (Binary64.ofInt (if value then 1 else 0))
  | .text spelled => readRealText spelled
  | .bytes value => readSpelled readRealText .noRealInText value
  | _ => .error .notReal

/-! ## Truth values -/

/-- The words for truth and falsehood. -/
def trueWords : List String := ["1", "true", "t", "y", "yes", "on"]

def falseWords : List String := ["0", "false", "f", "n", "no", "off"]

/-- A truth value in a text, in any case. -/
def readTruthText (text : String) : Except Problem Bool :=
  let word := text.map Char.toLower
  if trueWords.contains word then .ok true
  else if falseWords.contains word then .ok false
  else .error .noTruthInText

/-- One is true, zero is false. -/
def truthOfInteger (value : Int) : Except Problem Bool :=
  if value = 0 then .ok false
  else if value = 1 then .ok true
  else if -0x8000000000000000 ≤ value ∧ value < 0x8000000000000000 then .error .noTruthInText
  else .error .notTruth

/-- Reads a truth value. -/
def Raw.toTruth : Raw → Except Problem Bool
  | .truth value => .ok value
  | .integer value => truthOfInteger value
  | .real value =>
      match wholeOf value with
      | .ok value => truthOfInteger value
      | .error _ => .error .notTruth
  | .text spelled => readTruthText spelled
  | .bytes value => readSpelled readTruthText .noTruthInText value
  | _ => .error .notTruth

/-! ## Choices and bounds -/

/-- Reads one of some choices, each of which has one spelling. -/
def Raw.toChoice {α : Type} (choices : List (String × α)) (raw : Raw) : Except Problem α :=
  let found : Option (String × α) := match raw with
    | .text spelled => choices.find? fun choice => choice.1 == spelled
    | _ => none
  match found with
  | some choice => .ok choice.2
  | none => .error (.notAmong (choices.map Prod.fst))

/-- Reads an integer that is not below a bound. -/
def Raw.toIntegerFrom (least : Int) (raw : Raw) : Except Problem Int := do
  let value ← raw.toInteger
  if least ≤ value then return value else throw (.below least)

/-- Reads a real number that is not below a bound. -/
def Raw.toRealFrom (least : Int) (raw : Raw) : Except Problem Binary64 := do
  let value ← raw.toReal
  if !value.isNaN && (least : Rat) ≤ value.value then return value else throw (.below least)

/-- Reads a real number above a bound. -/
def Raw.toRealAbove (bound : Int) (raw : Raw) : Except Problem Binary64 := do
  let value ← raw.toReal
  if !value.isNaN && (bound : Rat) < value.value then return value else throw (.notAbove bound)

end Typeahead.Config
