import Typeahead.Json.Reader
import Typeahead.Text.Utf8

/-!
# The bytes of a JSON text

A JSON text is written in units of one, two or four bytes, and the larger units
begin with either end.  A mark in front can say which; without it the places of
the zero bytes do, because a JSON text begins with two characters of ASCII.
-/

namespace Typeahead.Json

open Typeahead.Text

set_option autoImplicit false

/-- Which byte of a unit comes first. -/
inductive Order where
  | greatFirst
  | smallFirst
  deriving DecidableEq, Repr, Inhabited

/-- How the characters of a text are written. -/
inductive Encoding where
  | utf8
  | utf16 (order : Order)
  | utf32 (order : Order)
  deriving DecidableEq, Repr, Inhabited

/-- The encoding that the mark in front of a text names, and the bytes behind the mark. -/
def markedEncoding? : List UInt8 → Option (Encoding × List UInt8)
  | 0x00 :: 0x00 :: 0xFE :: 0xFF :: rest => some (.utf32 .greatFirst, rest)
  | 0xFF :: 0xFE :: 0x00 :: 0x00 :: rest => some (.utf32 .smallFirst, rest)
  | 0xFE :: 0xFF :: rest => some (.utf16 .greatFirst, rest)
  | 0xFF :: 0xFE :: rest => some (.utf16 .smallFirst, rest)
  | 0xEF :: 0xBB :: 0xBF :: rest => some (.utf8, rest)
  | _ => none

/-- The encoding of a text without a mark, by the zeros among its first bytes. -/
def likelyEncoding : List UInt8 → Encoding
  | a :: b :: c :: d :: _ =>
      if a = 0 then (if b = 0 then .utf32 .greatFirst else .utf16 .greatFirst)
      else if b = 0 then (if c = 0 ∧ d = 0 then .utf32 .smallFirst else .utf16 .smallFirst)
      else .utf8
  | [a, b] => if a = 0 then .utf16 .greatFirst else if b = 0 then .utf16 .smallFirst else .utf8
  | _ => .utf8

/-- The number that the bytes of a unit write. -/
def Order.unit (order : Order) (bytes : List UInt8) : Nat :=
  let digits := bytes.map UInt8.toNat
  valueOfDigits 256 (match order with
    | .greatFirst => digits
    | .smallFirst => digits.reverse)

/-- Units of two bytes. -/
def Order.pairs? (order : Order) : List UInt8 → Option (List Nat)
  | [] => some []
  | a :: b :: rest => (order.pairs? rest).map (order.unit [a, b] :: ·)
  | _ => none

/-- Units of four bytes. -/
def Order.quads? (order : Order) : List UInt8 → Option (List Nat)
  | [] => some []
  | a :: b :: c :: d :: rest => (order.quads? rest).map (order.unit [a, b, c, d] :: ·)
  | _ => none

/-- The character of a number, if it is the number of one. -/
def charOfCode? (code : Nat) : Option Char :=
  if code.isValidChar then some (Char.ofNat code) else none

/-- The text that bytes spell in an encoding. -/
def Encoding.decode? : Encoding → List UInt8 → Option (List Char)
  | .utf8, bytes => Text.decode? bytes
  | .utf16 order, bytes =>
      (order.pairs? bytes).bind fun units => (joinPieces (units.map StringPiece.unit)).toOption
  | .utf32 order, bytes => (order.quads? bytes).bind fun units => units.mapM charOfCode?

/-- The characters of a JSON text that is given by its bytes. -/
def charactersOf? (bytes : List UInt8) : Option (List Char) :=
  match markedEncoding? bytes with
  | some (encoding, rest) => encoding.decode? rest
  | none => (likelyEncoding bytes).decode? bytes

end Typeahead.Json
