import Typeahead.Json.Value
import Typeahead.Text.Digit

/-!
# Reading JSON texts

A scanner takes what it reads from the front of a text and returns the rest.
The grammar is the strict one, with three more numbers: `NaN`, `Infinity` and
`-Infinity`.  How deep containers may nest and how many digits a number may have
before its point are limits that the caller sets; an empty container does not
count as one more level.  A text holds characters only, so the escape of one
half of a surrogate pair is a fault.
-/

namespace Typeahead.Json

open Typeahead.Decimal Typeahead.Text

set_option autoImplicit false

/-- Why a text is refused. -/
inductive Fault where
  | malformed
  | loneSurrogate
  | tooDeep
  | tooManyDigits (count : Nat)
  deriving DecidableEq, Repr, Inhabited

/-- How large a text may be. -/
structure Limits where
  /-- how many containers that are not empty may stand inside one another -/
  depth : Nat
  /-- how many digits an integer may have -/
  integerDigits : Nat
  /-- how many digits a number with a point or an exponent may have before them -/
  realDigits : Option Nat
  deriving DecidableEq, Repr, Inhabited

/-- What reads a value from the front of a text. -/
abbrev Scan (α : Type) : Type := List Char → Except Fault (α × List Char)

/-- The four characters that may stand between tokens. -/
def isSpace (c : Char) : Bool :=
  c == ' ' || c == '\t' || c == '\n' || c == '\r'

def skipSpace (text : List Char) : List Char :=
  text.dropWhile isSpace

/-! ## Strings -/

/-- A piece of a string: a character, or a unit of sixteen bits that an escape names. -/
inductive StringPiece where
  | char (c : Char)
  | unit (code : Nat)
  deriving DecidableEq, Repr, Inhabited

/-- The character that a short escape stands for. -/
def shortEscape? : Char → Option Char
  | '"' => some '"'
  | '\\' => some '\\'
  | '/' => some '/'
  | 'b' => some '\x08'
  | 'f' => some '\x0c'
  | 'n' => some '\n'
  | 'r' => some '\r'
  | 't' => some '\t'
  | _ => none

/-- The value of four hexadecimal digits. -/
def unitOf? (digits : List Char) : Option Nat :=
  (digits.mapM hexDigit?).map (valueOfDigits 16)

/-- The pieces of a string up to its closing quote. -/
def scanPieces : Scan (List StringPiece)
  | [] => .error .malformed
  | '"' :: rest => .ok ([], rest)
  | '\\' :: 'u' :: a :: b :: c :: d :: rest =>
      match unitOf? [a, b, c, d] with
      | some code => (scanPieces rest).map fun more => (.unit code :: more.1, more.2)
      | none => .error .malformed
  | '\\' :: c :: rest =>
      match shortEscape? c with
      | some escaped => (scanPieces rest).map fun more => (.char escaped :: more.1, more.2)
      | none => .error .malformed
  | c :: rest =>
      if c = '\\' ∨ c.toNat < 0x20 then .error .malformed
      else (scanPieces rest).map fun more => (.char c :: more.1, more.2)

/-- The first unit of a surrogate pair. -/
def isHighSurrogate (code : Nat) : Bool := decide (0xD800 ≤ code ∧ code ≤ 0xDBFF)

/-- The second unit of a surrogate pair. -/
def isLowSurrogate (code : Nat) : Bool := decide (0xDC00 ≤ code ∧ code ≤ 0xDFFF)

/-- The character of a surrogate pair. -/
def pairChar (high low : Nat) : Char :=
  Char.ofNat (0x10000 + (high - 0xD800) * 0x400 + (low - 0xDC00))

/-- Joins the units of pieces to characters. -/
def joinPieces : List StringPiece → Except Fault (List Char)
  | [] => .ok []
  | .char c :: pieces => (joinPieces pieces).map (c :: ·)
  | .unit high :: .unit low :: pieces =>
      if isHighSurrogate high then
        if isLowSurrogate low then (joinPieces pieces).map (pairChar high low :: ·)
        else .error .loneSurrogate
      else if isLowSurrogate high then .error .loneSurrogate
      else (joinPieces (.unit low :: pieces)).map (Char.ofNat high :: ·)
  | .unit code :: pieces =>
      if isHighSurrogate code || isLowSurrogate code then .error .loneSurrogate
      else (joinPieces pieces).map (Char.ofNat code :: ·)

/-- A string behind its opening quote. -/
def scanString : Scan String := fun text => do
  let (pieces, rest) ← scanPieces text
  let characters ← joinPieces pieces
  return (String.ofList characters, rest)

/-! ## Numbers -/

/-- The ASCII digits in front of a text. -/
def digitRun (text : List Char) : List Char × List Char :=
  (text.takeWhile isAsciiDigit, text.dropWhile isAsciiDigit)

/-- The number that a run of digits writes. -/
def digitRunValue (digits : List Char) : Nat :=
  valueOfDigits 10 (digits.filterMap asciiDigit?)

/-- The fraction of a number, if there is one: its digits. -/
def scanFraction : Scan (Option (List Char))
  | '.' :: text =>
      let run := digitRun text
      if run.1.isEmpty then .error .malformed else .ok (some run.1, run.2)
  | text => .ok (none, text)

/-- The exponent of a number, if there is one. -/
def scanExponent : Scan (Option Int)
  | [] => .ok (none, [])
  | c :: text =>
      if c = 'e' ∨ c = 'E' then
        let signText := match text with
          | '-' :: rest => (true, rest)
          | '+' :: rest => (false, rest)
          | rest => (false, rest)
        let run := digitRun signText.2
        if run.1.isEmpty then .error .malformed
        else
          let absolute : Int := digitRunValue run.1
          .ok (some (if signText.1 then -absolute else absolute), run.2)
      else .ok (none, c :: text)

/-- A number behind its sign. -/
def scanUnsigned (limits : Limits) (negative : Bool) : Scan Value := fun text => do
  let (digits, rest) := digitRun text
  if digits.isEmpty || (digits.head? == some '0' && 1 < digits.length) then throw .malformed
  let (fraction, rest) ← scanFraction rest
  let (exponent, rest) ← scanExponent rest
  match fraction, exponent with
  | none, none =>
      if limits.integerDigits < digits.length then throw (.tooManyDigits digits.length)
      let absolute : Int := digitRunValue digits
      return (.integer (if negative then -absolute else absolute), rest)
  | _, _ =>
      if let some most := limits.realDigits then
        if most < digits.length then throw (.tooManyDigits digits.length)
      let places := fraction.getD []
      return (.real (Binary64.ofDecimal negative (digitRunValue (digits ++ places))
        (exponent.getD 0 - places.length)), rest)

/-! ## Values -/

/-- Items with commas between them up to the closing bracket, from the first item on.  Each item
takes at least one character, so the number of characters bounds the number of items. -/
def scanItems {α : Type} (item : Scan α) (close : Char) : Nat → Scan (List α)
  | 0, _ => .error .malformed
  | bound + 1, text => do
      let (first, rest) ← item text
      match skipSpace rest with
      | [] => .error .malformed
      | c :: rest =>
          if c = close then return ([first], rest)
          else if c = ',' then
            let (others, rest) ← scanItems item close bound (skipSpace rest)
            return (first :: others, rest)
          else .error .malformed

/-- The items of a container behind its opening bracket. -/
def scanContainer {α : Type} (item : Scan α) (close : Char) : Scan (List α) := fun text =>
  match skipSpace text with
  | [] => .error .malformed
  | c :: rest =>
      if c = close then .ok ([], rest)
      else scanItems item close (rest.length + 1) (c :: rest)

/-- A member of an object. -/
def scanMember (inner : Scan Value) : Scan (String × Value)
  | '"' :: text => do
      let (name, rest) ← scanString text
      match skipSpace rest with
      | ':' :: rest =>
          let (value, rest) ← inner (skipSpace rest)
          return ((name, value), rest)
      | _ => .error .malformed
  | _ => .error .malformed

/-- A value whose parts are read by `inner`. -/
def scanWith (limits : Limits) (inner : Scan Value) : Scan Value
  | '"' :: text => (scanString text).map fun read => (.string read.1, read.2)
  | '[' :: text => (scanContainer inner ']' text).map fun read => (.array read.1, read.2)
  | '{' :: text =>
      (scanContainer (scanMember inner) '}' text).map fun read => (.object read.1, read.2)
  | 'n' :: 'u' :: 'l' :: 'l' :: rest => .ok (.null, rest)
  | 't' :: 'r' :: 'u' :: 'e' :: rest => .ok (.bool true, rest)
  | 'f' :: 'a' :: 'l' :: 's' :: 'e' :: rest => .ok (.bool false, rest)
  | 'N' :: 'a' :: 'N' :: rest => .ok (.real Binary64.nan, rest)
  | 'I' :: 'n' :: 'f' :: 'i' :: 'n' :: 'i' :: 't' :: 'y' :: rest =>
      .ok (.real (Binary64.infinity false), rest)
  | '-' :: 'I' :: 'n' :: 'f' :: 'i' :: 'n' :: 'i' :: 't' :: 'y' :: rest =>
      .ok (.real (Binary64.infinity true), rest)
  | '-' :: rest => scanUnsigned limits true rest
  | text => scanUnsigned limits false text

/-- A value with at most the given number of containers inside one another. -/
def scanValue (limits : Limits) : Nat → Scan Value
  | 0 => scanWith limits fun _ => .error .tooDeep
  | depth + 1 => scanWith limits (scanValue limits depth)

/-- Reads a whole text. -/
def read (limits : Limits) (text : List Char) : Except Fault Value := do
  let (value, rest) ← scanValue limits limits.depth (skipSpace text)
  if (skipSpace rest).isEmpty then return value else throw .malformed

end Typeahead.Json
