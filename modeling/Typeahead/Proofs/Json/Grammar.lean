import Typeahead.Json.Reader

/-!
# The grammar of JSON texts

What a text must look like to spell a value, said without a reader: the texts of
strings, numbers, lists and values are relations between characters and what
they spell.  An escape of sixteen bits names the character with this code point,
and two of them name one together when they are the halves of a surrogate pair;
no character has the code point of a half.
-/

namespace Typeahead.Json

open Typeahead.Decimal Typeahead.Text

set_option autoImplicit false

/-- Space between tokens. -/
def Spaces (text : List Char) : Prop :=
  ∀ c ∈ text, c = ' ' ∨ c = '\t' ∨ c = '\n' ∨ c = '\r'

/-! ## Strings -/

/-- Four hexadecimal digits write a number. -/
inductive UnitText : List Char → Nat → Prop where
  | digits {a b c d : Char} {first second third fourth : Nat} (hexA : hexDigit? a = some first)
      (hexB : hexDigit? b = some second) (hexC : hexDigit? c = some third)
      (hexD : hexDigit? d = some fourth) :
      UnitText [a, b, c, d] (((first * 16 + second) * 16 + third) * 16 + fourth)

/-- What stands between the quotes of a string, and the characters that it spells. -/
inductive StringText : List Char → List Char → Prop where
  | nil : StringText [] []
  | plain {c : Char} (printed : 0x20 ≤ c.toNat) (noQuote : c ≠ '"') (noEscape : c ≠ '\\')
      {text chars : List Char} (rest : StringText text chars) : StringText (c :: text) (c :: chars)
  | short {mark c : Char} (stands : shortEscape? mark = some c) {text chars : List Char}
      (rest : StringText text chars) : StringText ('\\' :: mark :: text) (c :: chars)
  | unit {digits : List Char} {c : Char} (names : UnitText digits c.toNat) {text chars : List Char}
      (rest : StringText text chars) : StringText ('\\' :: 'u' :: (digits ++ text)) (c :: chars)
  | pair {highDigits lowDigits : List Char} {high low : Nat} {c : Char}
      (highText : UnitText highDigits high) (lowText : UnitText lowDigits low)
      (isHigh : 0xD800 ≤ high ∧ high ≤ 0xDBFF) (isLow : 0xDC00 ≤ low ∧ low ≤ 0xDFFF)
      (names : c.toNat = 0x10000 + (high - 0xD800) * 0x400 + (low - 0xDC00))
      {text chars : List Char} (rest : StringText text chars) :
      StringText ('\\' :: 'u' :: (highDigits ++ '\\' :: 'u' :: (lowDigits ++ text))) (c :: chars)

/-! ## Numbers -/

/-- One or more digits. -/
def Digits (text : List Char) : Prop :=
  text ≠ [] ∧ ∀ c ∈ text, isAsciiDigit c = true

/-- The digits before a point: a zero stands there alone. -/
def WholeText (text : List Char) : Prop :=
  Digits text ∧ (text.head? = some '0' → text = ['0'])

/-- A point with places behind it, or nothing. -/
inductive FractionText : List Char → Option (List Char) → Prop where
  | absent : FractionText [] none
  | places {places : List Char} (digits : Digits places) :
      FractionText ('.' :: places) (some places)

/-- A mark with a whole number behind it, or nothing. -/
inductive ExponentText : List Char → Option Int → Prop where
  | absent : ExponentText [] none
  | bare {mark : Char} (marked : mark = 'e' ∨ mark = 'E') {digits : List Char}
      (whole : Digits digits) : ExponentText (mark :: digits) (some (digitRunValue digits))
  | plus {mark : Char} (marked : mark = 'e' ∨ mark = 'E') {digits : List Char}
      (whole : Digits digits) : ExponentText (mark :: '+' :: digits) (some (digitRunValue digits))
  | minus {mark : Char} (marked : mark = 'e' ∨ mark = 'E') {digits : List Char}
      (whole : Digits digits) :
      ExponentText (mark :: '-' :: digits) (some (-(digitRunValue digits : Int)))

/-- A number behind its sign. -/
inductive UnsignedText (limits : Limits) (negative : Bool) : List Char → Value → Prop where
  | integer {digits : List Char} (whole : WholeText digits)
      (few : digits.length ≤ limits.integerDigits) :
      UnsignedText limits negative digits
        (.integer (if negative then -(digitRunValue digits : Int) else digitRunValue digits))
  | real {digits fraction exponent : List Char} {places : Option (List Char)} {power : Option Int}
      (whole : WholeText digits) (few : ∀ most ∈ limits.realDigits, digits.length ≤ most)
      (fractionText : FractionText fraction places) (exponentText : ExponentText exponent power)
      (isReal : places ≠ none ∨ power ≠ none) :
      UnsignedText limits negative (digits ++ (fraction ++ exponent))
        (.real (Binary64.ofDecimal negative (digitRunValue (digits ++ places.getD []))
          (power.getD 0 - (places.getD []).length)))

/-! ## Containers -/

/-- What stands between the brackets of a container: items with commas between them. -/
inductive ListText {α : Type} (Item : List Char → α → Prop) : List Char → List α → Prop where
  | empty {spaces : List Char} (blank : Spaces spaces) : ListText Item spaces []
  | last {before text behind : List Char} {item : α} (blankBefore : Spaces before)
      (isItem : Item text item) (blankBehind : Spaces behind) :
      ListText Item (before ++ (text ++ behind)) [item]
  | next {before text behind more : List Char} {item other : α} {others : List α}
      (blankBefore : Spaces before) (isItem : Item text item) (blankBehind : Spaces behind)
      (rest : ListText Item more (other :: others)) :
      ListText Item (before ++ (text ++ (behind ++ ',' :: more))) (item :: other :: others)

/-- A member of an object: its name in quotes, a colon and its value. -/
inductive MemberText {α : Type} (Item : List Char → α → Prop) :
    List Char → String × α → Prop where
  | named {name chars before behind text : List Char} {value : α} (isName : StringText name chars)
      (blankBefore : Spaces before) (blankBehind : Spaces behind) (isValue : Item text value) :
      MemberText Item ('"' :: (name ++ '"' :: (before ++ ':' :: (behind ++ text))))
        (String.ofList chars, value)

/-! ## Values -/

/-- A text spells a value. -/
inductive ValueText (limits : Limits) : List Char → Value → Prop where
  | null : ValueText limits ['n', 'u', 'l', 'l'] .null
  | true : ValueText limits ['t', 'r', 'u', 'e'] (.bool true)
  | false : ValueText limits ['f', 'a', 'l', 's', 'e'] (.bool false)
  | nan : ValueText limits ['N', 'a', 'N'] (.real Binary64.nan)
  | infinity :
      ValueText limits ['I', 'n', 'f', 'i', 'n', 'i', 't', 'y'] (.real (Binary64.infinity .false))
  | minusInfinity :
      ValueText limits ['-', 'I', 'n', 'f', 'i', 'n', 'i', 't', 'y']
        (.real (Binary64.infinity .true))
  | positive {text : List Char} {value : Value} (number : UnsignedText limits .false text value) :
      ValueText limits text value
  | negative {text : List Char} {value : Value} (number : UnsignedText limits .true text value) :
      ValueText limits ('-' :: text) value
  | string {text chars : List Char} (inside : StringText text chars) :
      ValueText limits ('"' :: (text ++ ['"'])) (.string (String.ofList chars))
  | array {text : List Char} {items : List Value}
      (inside : ListText (ValueText limits) text items) :
      ValueText limits ('[' :: (text ++ [']'])) (.array items)
  | object {text : List Char} {members : List (String × Value)}
      (inside : ListText (MemberText (ValueText limits)) text members) :
      ValueText limits ('{' :: (text ++ ['}'])) (.object members)

mutual

/-- How many containers that are not empty stand inside one another at most. -/
def Value.nesting : Value → Nat
  | .array items => nestingOfItems items
  | .object members => nestingOfMembers members
  | _ => 0

def nestingOfItems : List Value → Nat
  | [] => 0
  | item :: items => max (item.nesting + 1) (nestingOfItems items)

def nestingOfMembers : List (String × Value) → Nat
  | [] => 0
  | (_, value) :: members => max (value.nesting + 1) (nestingOfMembers members)

end

theorem nestingOfItems_le_iff {items : List Value} {bound : Nat} :
    nestingOfItems items ≤ bound ↔ ∀ item ∈ items, item.nesting < bound := by
  induction items with
  | nil => simp [nestingOfItems]
  | cons item items inductionHypothesis =>
      rw [nestingOfItems, Nat.max_le, inductionHypothesis, List.forall_mem_cons, Nat.succ_le_iff]

theorem nestingOfMembers_le_iff {members : List (String × Value)} {bound : Nat} :
    nestingOfMembers members ≤ bound ↔ ∀ member ∈ members, member.2.nesting < bound := by
  induction members with
  | nil => simp [nestingOfMembers]
  | cons member members inductionHypothesis =>
      rw [nestingOfMembers, Nat.max_le, inductionHypothesis, List.forall_mem_cons, Nat.succ_le_iff]

/-- A whole text spells a value, nested no deeper than it may be. -/
structure JsonText (limits : Limits) (text : List Char) (value : Value) : Prop where
  spelled : ∃ before body behind, Spaces before ∧ Spaces behind ∧
    text = before ++ (body ++ behind) ∧ ValueText limits body value
  shallow : value.nesting ≤ limits.depth

end Typeahead.Json
