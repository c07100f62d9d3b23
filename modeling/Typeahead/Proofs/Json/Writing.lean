import Typeahead.Json.Printer
import Typeahead.Proofs.Json.Grammar

/-!
# Texts that are written

What the printer writes belongs to the grammar.  Every character of a string has
an escape or stands for itself, and either is the text of this character
(`stringText_escapeChar`); so the text of a string spells the string, and commas
between the texts of items make the text of a list (`listText_writeItems`).  The
decimal digits of a number spell the number (`valueText_writeNumber`), and the
lines of an object with each member on a line of its own spell the object
(`jsonText_indentedObject`).
-/

namespace Typeahead.Json

open Typeahead.Text

set_option autoImplicit false

/-! ## Strings -/

theorem unitText_hexDigits {code : Nat} (bound : code < 0x10000) :
    UnitText (hexDigits false 4 code) code := by
  have digit (value : Nat) :
      hexDigit? (hexDigit false (value % 16)) = some (value % 16) :=
    hexDigit?_hexDigit false (Nat.mod_lt value (by decide))
  have joined : ((code / 16 / 16 / 16 % 16 * 16 + code / 16 / 16 % 16) * 16 + code / 16 % 16) * 16 +
      code % 16 = code := by omega
  have written := UnitText.digits (digit (code / 16 / 16 / 16)) (digit (code / 16 / 16))
    (digit (code / 16)) (digit code)
  rw [joined] at written
  exact written

/-- **What is written for a character spells this character.** -/
theorem stringText_escapeChar (c : Char) {text chars : List Char} (rest : StringText text chars) :
    StringText (escapeChar c ++ text) (c :: chars) := by
  by_cases quote : c = '"'
  · subst quote
    exact .short rfl rest
  by_cases backslash : c = '\\'
  · subst backslash
    exact .short rfl rest
  by_cases lineFeed : c = '\n'
  · subst lineFeed
    exact .short rfl rest
  by_cases carriageReturn : c = '\r'
  · subst carriageReturn
    exact .short rfl rest
  by_cases tab : c = '\t'
  · subst tab
    exact .short rfl rest
  by_cases backspace : c = '\x08'
  · subst backspace
    exact .short rfl rest
  by_cases formFeed : c = '\x0c'
  · subst formFeed
    exact .short rfl rest
  by_cases control : c.toNat < 0x20
  · -- the controls that have no short escape are written by their numbers
    have written : escapeChar c = '\\' :: 'u' :: hexDigits false 4 c.toNat := by
      simp only [escapeChar, quote, backslash, lineFeed, carriageReturn, tab, backspace, formFeed,
        control, if_false, if_true]
    rw [written]
    exact .unit (unitText_hexDigits (by omega)) rest
  · have written : escapeChar c = [c] := by
      simp only [escapeChar, quote, backslash, lineFeed, carriageReturn, tab, backspace, formFeed,
        control, if_false]
    rw [written]
    exact .plain (Nat.le_of_not_lt control) quote backslash rest

theorem stringText_flatMap_escapeChar (chars : List Char) :
    StringText (chars.flatMap escapeChar) chars := by
  induction chars with
  | nil => exact .nil
  | cons c chars inductionHypothesis =>
      rw [List.flatMap_cons]
      exact stringText_escapeChar c inductionHypothesis

variable {limits : Limits}

/-- **What is written for a string spells this string.** -/
theorem valueText_writeString (text : String) :
    ValueText limits (writeString text) (.string text) := by
  have spelled : ValueText limits ('"' :: (text.toList.flatMap escapeChar ++ ['"']))
      (.string (String.ofList text.toList)) :=
    .string (stringText_flatMap_escapeChar text.toList)
  rw [String.ofList_toList] at spelled
  exact spelled

/-! ## Numbers -/

theorem asciiDigit?_of_isDigit {c : Char} (digit : c.isDigit = true) :
    asciiDigit? c = some (c.toNat - '0'.toNat) := by
  obtain ⟨least, most⟩ := Char.isDigit_iff_toNat.mp digit
  exact if_pos ⟨least, most⟩

theorem foldl_asciiDigits {digits : List Char} (all : ∀ c ∈ digits, c.isDigit = true)
    (value : Nat) :
    (digits.filterMap asciiDigit?).foldl (fun value digit => value * 10 + digit) value =
      Nat.ofDigitChars 10 digits value := by
  induction digits generalizing value with
  | nil => rfl
  | cons c digits inductionHypothesis =>
      obtain ⟨first, others⟩ := List.forall_mem_cons.mp all
      rw [List.filterMap_cons_some (asciiDigit?_of_isDigit first), List.foldl_cons,
        inductionHypothesis others, Nat.ofDigitChars_cons, Nat.mul_comm]

theorem digitRunValue_toDigits (number : Nat) :
    digitRunValue (Nat.toDigits 10 number) = number := by
  have all : ∀ c ∈ Nat.toDigits 10 number, c.isDigit = true :=
    fun c => Nat.isDigit_of_mem_toDigits (by decide) (by decide)
  exact (foldl_asciiDigits all 0).trans Nat.ofDigitChars_ten_toDigits

/-- Only the number zero is written with a zero in front. -/
theorem toDigits_of_head?_eq_zero (number : Nat)
    (zero : (Nat.toDigits 10 number).head? = some '0') : Nat.toDigits 10 number = ['0'] := by
  induction number using Nat.strongRecOn with
  | ind number inductionHypothesis =>
    rcases Nat.lt_or_ge number 10 with small | large
    · rw [Nat.toDigits_of_lt_base small] at zero ⊢
      rw [Option.some.inj zero]
    · exfalso
      rw [Nat.toDigits_of_base_le (by decide) large, List.head?_append,
        Option.or_of_isSome (List.isSome_head?.mpr Nat.toDigits_ne_nil)] at zero
      have front := inductionHypothesis (number / 10) (by omega) zero
      have nothing : number / 10 = digitRunValue ['0'] := by
        rw [← front, digitRunValue_toDigits]
      have none : digitRunValue ['0'] = 0 := rfl
      omega

theorem wholeText_toDigits (number : Nat) : WholeText (Nat.toDigits 10 number) := by
  refine ⟨⟨Nat.toDigits_ne_nil, fun c member => ?_⟩, toDigits_of_head?_eq_zero number⟩
  rw [isAsciiDigit,
    asciiDigit?_of_isDigit (Nat.isDigit_of_mem_toDigits (by decide) (by decide) member)]
  rfl

/-- The text of a number is made of its decimal digits. -/
theorem writeValue_number (number : Nat) :
    writeValue (.integer number) = Nat.toDigits 10 number := by
  have written : toString (number : Int) = String.ofList (Nat.toDigits 10 number) := rfl
  rw [writeValue, writeScalar, written, String.toList_ofList]
  all_goals exact nofun

/-- **What is written for a number spells this number**, where so many digits are taken. -/
theorem valueText_writeNumber (number : Nat)
    (few : (writeValue (.integer number)).length ≤ limits.integerDigits) :
    ValueText limits (writeValue (.integer number)) (.integer number) := by
  rw [writeValue_number] at few ⊢
  have spelled := ValueText.positive (.integer (wholeText_toDigits number) few)
  rw [digitRunValue_toDigits] at spelled
  exact spelled

/-! ## Lists -/

/-- **Texts of items with commas between them spell the items.** -/
theorem listText_writeItems {items : List Value}
    (spelled : ∀ item ∈ items, ValueText limits (writeValue item) item) :
    ListText (ValueText limits) (writeItems items) items := by
  have noSpace : Spaces [] := nofun
  induction items with
  | nil => exact .empty noSpace
  | cons item items inductionHypothesis =>
      obtain ⟨first, others⟩ := List.forall_mem_cons.mp spelled
      cases items with
      | nil =>
          have last : ListText (ValueText limits) ([] ++ (writeValue item ++ [])) [item] :=
            .last noSpace first noSpace
          rw [List.nil_append, List.append_nil] at last
          exact last
      | cons other items => exact .next noSpace first noSpace (inductionHypothesis others)

/-- **The text of a list of strings spells this list.** -/
theorem jsonText_strings (deep : 1 ≤ limits.depth) (texts : List String) :
    JsonText limits (writeValue (.array (texts.map .string))) (.array (texts.map .string)) where
  spelled := by
    have items : ∀ item ∈ texts.map Value.string, ValueText limits (writeValue item) item := by
      intro item member
      obtain ⟨text, -, rfl⟩ := List.mem_map.mp member
      exact valueText_writeString text
    refine ⟨[], writeValue (.array (texts.map .string)), [], nofun, nofun, ?_, ?_⟩
    · rw [List.nil_append, List.append_nil]
    · exact .array (listText_writeItems items)
  shallow := by
    refine nestingOfItems_le_iff.mpr fun item member => ?_
    obtain ⟨text, -, rfl⟩ := List.mem_map.mp member
    exact deep

/-! ## Objects -/

/-- The line of a member without the space in front of it. -/
def memberLine (member : String × Value) : List Char :=
  writeString member.1 ++ ':' :: ' ' :: writeValue member.2

/-- The lines of members, with a comma behind each but the last. -/
def memberLines (members : List (String × Value)) : List Char :=
  (List.intersperse [',', '\n'] (members.map fun member => ' ' :: ' ' :: memberLine member)).flatten

theorem memberLines_singleton (member : String × Value) :
    memberLines [member] = ' ' :: ' ' :: memberLine member := by
  simp [memberLines]

theorem memberLines_cons_cons (member other : String × Value) (members : List (String × Value)) :
    memberLines (member :: other :: members) =
      ' ' :: ' ' :: (memberLine member ++ ',' :: '\n' :: memberLines (other :: members)) := by
  simp [memberLines]

theorem toList_indentedObject (members : List (String × Value)) :
    (indentedObject members).toList =
      '{' :: ('\n' :: (memberLines members ++ ['\n']) ++ ['}']) := by
  rw [indentedObject, String.toList_ofList, List.append_assoc]
  simp only [List.cons_append, List.nil_append, List.append_assoc]
  rfl

theorem memberText_memberLine {member : String × Value}
    (spelled : ValueText limits (writeValue member.2) member.2) :
    MemberText (ValueText limits) (memberLine member) member := by
  obtain ⟨name, value⟩ := member
  have noSpace : Spaces [] := nofun
  have oneSpace : Spaces [' '] := by simp [Spaces]
  have named := MemberText.named (stringText_flatMap_escapeChar name.toList) noSpace oneSpace
    spelled
  rw [String.ofList_toList] at named
  simpa only [memberLine, writeString, List.cons_append, List.nil_append, List.append_assoc]
    using named

/-- **The lines of members spell the members.** -/
theorem listText_memberLines {members : List (String × Value)}
    (spelled : ∀ member ∈ members, ValueText limits (writeValue member.2) member.2) :
    ListText (MemberText (ValueText limits)) ('\n' :: (memberLines members ++ ['\n']))
      members := by
  have noSpace : Spaces [] := nofun
  have lineEnd : Spaces ['\n'] := by simp [Spaces]
  have lineFront : Spaces ['\n', ' ', ' '] := by simp [Spaces]
  induction members with
  | nil =>
      have blank : Spaces ['\n', '\n'] := by simp [Spaces]
      exact .empty blank
  | cons member members inductionHypothesis =>
      obtain ⟨first, others⟩ := List.forall_mem_cons.mp spelled
      cases members with
      | nil =>
          rw [memberLines_singleton]
          exact .last lineFront (memberText_memberLine first) lineEnd
      | cons other members =>
          have next := ListText.next lineFront (memberText_memberLine first) noSpace
            (inductionHypothesis others)
          rw [memberLines_cons_cons]
          simpa only [List.cons_append, List.nil_append, List.append_assoc] using next

/-- The value of a member is written in the lines. -/
theorem length_writeValue_le {members : List (String × Value)} {member : String × Value}
    (listed : member ∈ members) :
    (writeValue member.2).length ≤ (indentedObject members).toList.length := by
  have inLine (member : String × Value) :
      (writeValue member.2).length ≤ (memberLine member).length := by
    simp only [memberLine, List.length_append, List.length_cons]
    omega
  have inLines : (writeValue member.2).length ≤ (memberLines members).length := by
    induction members with
    | nil => exact absurd listed List.not_mem_nil
    | cons other members inductionHypothesis =>
        have fits := inLine other
        cases members with
        | nil =>
            rw [List.mem_singleton.mp listed, memberLines_singleton, List.length_cons,
              List.length_cons]
            omega
        | cons third members =>
            rw [memberLines_cons_cons, List.length_cons, List.length_cons, List.length_append,
              List.length_cons, List.length_cons]
            rcases List.mem_cons.mp listed with rfl | behind
            · omega
            · have shorter := inductionHypothesis behind
              omega
  simp only [toList_indentedObject, List.length_cons, List.length_append]
  omega

/-- **What is written for an object spells this object**, whatever space follows. -/
theorem jsonText_indentedObject (deep : 1 ≤ limits.depth) {members : List (String × Value)}
    (spelled : ∀ member ∈ members, ValueText limits (writeValue member.2) member.2)
    (flat : ∀ member ∈ members, member.2.nesting = 0) {behind : List Char}
    (blank : Spaces behind) :
    JsonText limits ((indentedObject members).toList ++ behind) (.object members) where
  spelled := by
    refine ⟨[], (indentedObject members).toList, behind, nofun, blank, rfl, ?_⟩
    rw [toList_indentedObject]
    exact .object (listText_memberLines spelled)
  shallow := by
    refine nestingOfMembers_le_iff.mpr fun member listed => ?_
    rw [flat member listed]
    exact deep

end Typeahead.Json
