import Mathlib.Data.List.TakeWhile
import Typeahead.Proofs.Json.Strings

/-!
# Reading numbers

The reader of numbers takes a number from the front of a text
(`scanUnsigned_sound`).  It takes as much as it can, so a number is read whole
only where the text behind it does not go on as a number
(`scanUnsigned_complete`).
-/

namespace Typeahead.Json

open Typeahead.Decimal Typeahead.Text

set_option autoImplicit false

/-! ## Runs of digits -/

theorem digitRun_append_eq (text : List Char) : (digitRun text).1 ++ (digitRun text).2 = text :=
  List.takeWhile_append_dropWhile

theorem digits_digitRun {text : List Char} (some : ¬ (digitRun text).1.isEmpty = true) :
    Digits (digitRun text).1 := by
  refine ⟨fun empty => some (List.isEmpty_iff.mpr empty), fun c member => ?_⟩
  exact List.mem_takeWhile_imp member

/-- The text goes on without a digit. -/
def NoDigitNext (text : List Char) : Prop := ∀ c ∈ text.head?, isAsciiDigit c = false

theorem digitRun_of_digits {digits : List Char} (run : Digits digits) {rest : List Char}
    (ends : NoDigitNext rest) : digitRun (digits ++ rest) = (digits, rest) := by
  have nothing : rest.takeWhile isAsciiDigit = [] ∧ rest.dropWhile isAsciiDigit = rest := by
    cases rest with
    | nil => exact ⟨rfl, rfl⟩
    | cons c rest =>
        have noDigit : isAsciiDigit c = false := ends c rfl
        rw [List.takeWhile_cons, List.dropWhile_cons, noDigit]
        exact ⟨rfl, rfl⟩
  rw [digitRun, List.takeWhile_append_of_pos run.2, List.dropWhile_append_of_pos run.2, nothing.1,
    nothing.2, List.append_nil]

/-! ## Fractions and exponents -/

theorem scanFraction_sound {text : List Char} {places : Option (List Char)} {rest : List Char}
    (scanned : scanFraction text = .ok (places, rest)) :
    ∃ body, text = body ++ rest ∧ FractionText body places := by
  rw [scanFraction.eq_def] at scanned
  split at scanned
  next behind =>
    dsimp only at scanned
    split at scanned
    next => exact nomatch scanned
    next some =>
      obtain ⟨rfl, rfl⟩ := Prod.mk.inj (Except.ok.inj scanned)
      refine ⟨'.' :: (digitRun behind).1, ?_, .places (digits_digitRun some)⟩
      rw [List.cons_append, digitRun_append_eq]
  next =>
    obtain ⟨rfl, rfl⟩ := Prod.mk.inj (Except.ok.inj scanned)
    exact ⟨[], rfl, .absent⟩

theorem scanFraction_of_digits {places : List Char} (run : Digits places) {rest : List Char}
    (ends : NoDigitNext rest) :
    scanFraction ('.' :: (places ++ rest)) = .ok (some places, rest) := by
  have some : ¬ places.isEmpty = true := fun empty => run.1 (List.isEmpty_iff.mp empty)
  simp only [scanFraction, digitRun_of_digits run ends, if_neg some]

theorem scanFraction_of_absent {rest : List Char} (noPoint : ∀ c ∈ rest.head?, c ≠ '.') :
    scanFraction rest = .ok (none, rest) := by
  cases rest with
  | nil => rfl
  | cons c rest =>
      have other : c ≠ '.' := noPoint c rfl
      rw [scanFraction]
      rintro _ same
      exact other (List.cons.inj same).1

/-- The digits of an exponent behind its sign. -/
def scanPower (negative : Bool) : Scan (Option Int) := fun text =>
  let run := digitRun text
  if run.1.isEmpty then .error .malformed
  else
    let absolute : Int := digitRunValue run.1
    .ok (some (if negative then -absolute else absolute), run.2)

theorem scanPower_sound {negative : Bool} {text : List Char} {power : Option Int}
    {rest : List Char} (scanned : scanPower negative text = .ok (power, rest)) :
    ∃ digits, text = digits ++ rest ∧ Digits digits ∧
      power = some (if negative then -(digitRunValue digits : Int) else digitRunValue digits) := by
  simp only [scanPower] at scanned
  split at scanned
  next => exact nomatch scanned
  next some =>
    obtain ⟨rfl, rfl⟩ := Prod.mk.inj (Except.ok.inj scanned)
    exact ⟨(digitRun text).1, (digitRun_append_eq text).symm, digits_digitRun some, rfl⟩

theorem scanPower_complete (negative : Bool) {digits : List Char} (run : Digits digits)
    {rest : List Char} (ends : NoDigitNext rest) :
    scanPower negative (digits ++ rest) =
      .ok (some (if negative then -(digitRunValue digits : Int) else digitRunValue digits),
        rest) := by
  have some : ¬ digits.isEmpty = true := fun empty => run.1 (List.isEmpty_iff.mp empty)
  simp only [scanPower, digitRun_of_digits run ends, if_neg some]

theorem scanExponent_minus {mark : Char} (marked : mark = 'e' ∨ mark = 'E') (text : List Char) :
    scanExponent (mark :: '-' :: text) = scanPower true text := if_pos marked

theorem scanExponent_plus {mark : Char} (marked : mark = 'e' ∨ mark = 'E') (text : List Char) :
    scanExponent (mark :: '+' :: text) = scanPower false text := if_pos marked

theorem scanExponent_bare {mark : Char} (marked : mark = 'e' ∨ mark = 'E') {text : List Char}
    (noMinus : ∀ rest, text ≠ '-' :: rest) (noPlus : ∀ rest, text ≠ '+' :: rest) :
    scanExponent (mark :: text) = scanPower false text := by
  rw [scanExponent, if_pos marked]
  · rfl
  · exact noMinus
  · exact noPlus

theorem scanExponent_of_absent {rest : List Char}
    (noMark : ∀ c ∈ rest.head?, ¬ (c = 'e' ∨ c = 'E')) : scanExponent rest = .ok (none, rest) := by
  cases rest with
  | nil => rfl
  | cons c rest => exact if_neg (noMark c rfl)

/-- What stands behind the mark of an exponent begins with a sign, or not. -/
theorem sign_cases (text : List Char) :
    (∃ rest, text = '-' :: rest) ∨ (∃ rest, text = '+' :: rest) ∨
      (∀ rest, text ≠ '-' :: rest) ∧ ∀ rest, text ≠ '+' :: rest := by
  by_cases minus : ∃ rest, text = '-' :: rest
  · exact .inl minus
  · by_cases plus : ∃ rest, text = '+' :: rest
    · exact .inr (.inl plus)
    · exact .inr (.inr ⟨not_exists.mp minus, not_exists.mp plus⟩)

theorem scanExponent_sound {text : List Char} {power : Option Int} {rest : List Char}
    (scanned : scanExponent text = .ok (power, rest)) :
    ∃ body, text = body ++ rest ∧ ExponentText body power := by
  by_cases marks : ∃ mark behind, text = mark :: behind ∧ (mark = 'e' ∨ mark = 'E')
  · obtain ⟨mark, behind, rfl, marked⟩ := marks
    rcases sign_cases behind with ⟨unsigned, rfl⟩ | ⟨unsigned, rfl⟩ | ⟨noMinus, noPlus⟩
    · rw [scanExponent_minus marked] at scanned
      obtain ⟨digits, rfl, run, rfl⟩ := scanPower_sound scanned
      exact ⟨mark :: '-' :: digits, rfl, .minus marked run⟩
    · rw [scanExponent_plus marked] at scanned
      obtain ⟨digits, rfl, run, rfl⟩ := scanPower_sound scanned
      exact ⟨mark :: '+' :: digits, rfl, .plus marked run⟩
    · rw [scanExponent_bare marked noMinus noPlus] at scanned
      obtain ⟨digits, rfl, run, rfl⟩ := scanPower_sound scanned
      exact ⟨mark :: digits, rfl, .bare marked run⟩
  · have noMark : ∀ c ∈ text.head?, ¬ (c = 'e' ∨ c = 'E') := by
      intro c first marked
      obtain ⟨behind, rfl⟩ := List.head?_eq_some_iff.mp first
      exact marks ⟨c, behind, rfl, marked⟩
    rw [scanExponent_of_absent noMark] at scanned
    obtain ⟨rfl, rfl⟩ := Prod.mk.inj (Except.ok.inj scanned)
    exact ⟨[], rfl, .absent⟩

theorem scanExponent_complete {body : List Char} {power : Option Int}
    (spelled : ExponentText body power) {rest : List Char} (ends : NoDigitNext rest)
    (noMark : ∀ c ∈ rest.head?, ¬ (c = 'e' ∨ c = 'E')) :
    scanExponent (body ++ rest) = .ok (power, rest) := by
  cases spelled with
  | absent => exact scanExponent_of_absent noMark
  | minus marked run => exact (scanExponent_minus marked _).trans (scanPower_complete true run ends)
  | plus marked run => exact (scanExponent_plus marked _).trans (scanPower_complete false run ends)
  | bare marked run =>
      obtain ⟨c, digits, rfl⟩ := List.exists_cons_of_ne_nil run.1
      have digit : isAsciiDigit c = true := run.2 c List.mem_cons_self
      have unsigned {sign : Char} (noDigit : isAsciiDigit sign = false) (behind : List Char) :
          c :: (digits ++ rest) ≠ sign :: behind := by
        rintro same
        obtain ⟨rfl, -⟩ := List.cons.inj same
        rw [noDigit] at digit
        exact nomatch digit
      exact (scanExponent_bare marked (unsigned rfl) (unsigned rfl)).trans
        (scanPower_complete false run ends)

/-! ## Whole numbers and reals -/

theorem wholeText_iff {digits : List Char} (all : ∀ c ∈ digits, isAsciiDigit c = true) :
    ¬ (digits.isEmpty || (digits.head? == some '0' && decide (1 < digits.length))) = true ↔
      WholeText digits := by
  cases digits with
  | nil => exact ⟨fun some => absurd rfl some, fun whole => absurd rfl whole.1.1⟩
  | cons c digits =>
      have run : Digits (c :: digits) := ⟨List.cons_ne_nil c digits, all⟩
      cases digits with
      | nil =>
          constructor
          · intro _
            exact ⟨run, fun zero => congrArg (fun d => [d]) (Option.some.inj zero)⟩
          · intro _
            simp
      | cons d digits =>
          simp [WholeText, run]

/-- The number with these digits before the point, these places behind it and this exponent. -/
def numberOf (limits : Limits) (negative : Bool) (digits : List Char) :
    Option (List Char) → Option Int → Except Fault Value
  | none, none =>
      if limits.integerDigits < digits.length then .error (.tooManyDigits digits.length)
      else .ok (.integer (if negative then -(digitRunValue digits : Int) else digitRunValue digits))
  | places, power =>
      if limits.realDigits.any (fun most => decide (most < digits.length)) then
        .error (.tooManyDigits digits.length)
      else
        .ok (.real (Binary64.ofDecimal negative (digitRunValue (digits ++ places.getD []))
          (power.getD 0 - (places.getD []).length)))

theorem scanUnsigned_eq (limits : Limits) (negative : Bool) (text : List Char) :
    scanUnsigned limits negative text =
      if (digitRun text).1.isEmpty ||
          ((digitRun text).1.head? == some '0' && decide (1 < (digitRun text).1.length)) then
        .error .malformed
      else do
        let fraction ← scanFraction (digitRun text).2
        let exponent ← scanExponent fraction.2
        let value ← numberOf limits negative (digitRun text).1 fraction.1 exponent.1
        return (value, exponent.2) := by
  rw [scanUnsigned]
  dsimp only
  split
  next => rfl
  next =>
    refine congrArg _ (funext fun fraction => congrArg _ (funext fun exponent => ?_))
    rcases fraction.1 with _ | places <;> rcases exponent.1 with _ | power
    · simp only [numberOf]
      split <;> rfl
    all_goals
      simp only [numberOf]
      cases limits.realDigits with
      | none => rfl
      | some most =>
          simp only [Option.any_some, decide_eq_true_eq]
          split <;> rfl

theorem numberOf_real {limits : Limits} {negative : Bool} {digits : List Char}
    {places : Option (List Char)} {power : Option Int} (isReal : places ≠ none ∨ power ≠ none) :
    numberOf limits negative digits places power =
      if limits.realDigits.any (fun most => decide (most < digits.length)) then
        .error (.tooManyDigits digits.length)
      else
        .ok (.real (Binary64.ofDecimal negative (digitRunValue (digits ++ places.getD []))
          (power.getD 0 - (places.getD []).length))) := by
  cases places with
  | some places => rfl
  | none =>
      cases power with
      | some power => rfl
      | none => exact absurd isReal (by simp)

theorem any_lt_iff {most? : Option Nat} {count : Nat} :
    ¬ most?.any (fun most => decide (most < count)) = true ↔ ∀ most ∈ most?, count ≤ most := by
  cases most? with
  | none => exact ⟨fun _ _ => nofun, fun _ => nofun⟩
  | some most => simp

/-- What parts of a number give is what their texts spell together. -/
theorem numberOf_sound {limits : Limits} {negative : Bool} {digits fraction exponent : List Char}
    {places : Option (List Char)} {power : Option Int} {value : Value} (whole : WholeText digits)
    (fractionText : FractionText fraction places) (exponentText : ExponentText exponent power)
    (number : numberOf limits negative digits places power = .ok value) :
    UnsignedText limits negative (digits ++ (fraction ++ exponent)) value := by
  by_cases isReal : places ≠ none ∨ power ≠ none
  · rw [numberOf_real isReal] at number
    split at number
    next => exact nomatch number
    next few =>
      obtain rfl := Except.ok.inj number
      exact .real whole (any_lt_iff.mp few) fractionText exponentText isReal
  · obtain ⟨noPlaces, noPower⟩ := not_or.mp isReal
    obtain rfl := not_not.mp noPlaces
    obtain rfl := not_not.mp noPower
    cases fractionText with
    | absent =>
        cases exponentText with
        | absent =>
            rw [numberOf] at number
            split at number
            next => exact nomatch number
            next few =>
              obtain rfl := Except.ok.inj number
              rw [List.append_nil, List.append_nil]
              exact .integer whole (Nat.le_of_not_lt few)

/-- **What is read as a number is the text of one.** -/
theorem scanUnsigned_sound {limits : Limits} {negative : Bool} {text : List Char} {value : Value}
    {rest : List Char} (scanned : scanUnsigned limits negative text = .ok (value, rest)) :
    ∃ body, text = body ++ rest ∧ UnsignedText limits negative body value := by
  rw [scanUnsigned_eq] at scanned
  split at scanned
  next => exact nomatch scanned
  next goodStart =>
    have all : ∀ c ∈ (digitRun text).1, isAsciiDigit c = true := fun c => List.mem_takeWhile_imp
    have whole := (wholeText_iff all).mp goodStart
    obtain ⟨⟨places, _⟩, fractioned, scanned⟩ := exists_of_bind_eq_ok scanned
    obtain ⟨⟨power, _⟩, exponented, scanned⟩ := exists_of_bind_eq_ok scanned
    obtain ⟨number, made, same⟩ := exists_of_bind_eq_ok scanned
    obtain ⟨rfl, rfl⟩ := Prod.mk.inj (Except.ok.inj same)
    obtain ⟨fraction, behindDigits, fractionText⟩ := scanFraction_sound fractioned
    obtain ⟨exponent, rfl, exponentText⟩ := scanExponent_sound exponented
    refine ⟨(digitRun text).1 ++ (fraction ++ exponent), ?_,
      numberOf_sound whole fractionText exponentText made⟩
    rw [List.append_assoc, List.append_assoc, ← behindDigits, digitRun_append_eq]

/-! ## Where a number ends -/

/-- The text does not go on as a number does. -/
def NumberEnds (text : List Char) : Prop :=
  ∀ c ∈ text.head?, isAsciiDigit c = false ∧ c ≠ '.' ∧ c ≠ 'e' ∧ c ≠ 'E'

theorem NumberEnds.noDigitNext {rest : List Char} (ends : NumberEnds rest) : NoDigitNext rest :=
  fun c first => (ends c first).1

theorem NumberEnds.noMark {rest : List Char} (ends : NumberEnds rest) :
    ∀ c ∈ rest.head?, ¬ (c = 'e' ∨ c = 'E') :=
  fun c first => not_or.mpr (ends c first).2.2

/-- Behind the places stands an exponent or what comes after the number. -/
theorem head_exponent {exponent : List Char} {power : Option Int}
    (exponentText : ExponentText exponent power) {rest : List Char} (ends : NumberEnds rest) :
    ∀ c ∈ (exponent ++ rest).head?, isAsciiDigit c = false ∧ c ≠ '.' := by
  have marks {mark : Char} (marked : mark = 'e' ∨ mark = 'E') (behind : List Char) :
      ∀ c ∈ (mark :: behind).head?, isAsciiDigit c = false ∧ c ≠ '.' := by
    intro c first
    obtain rfl := Option.some.inj first
    rcases marked with rfl | rfl
    · exact ⟨rfl, by decide⟩
    · exact ⟨rfl, by decide⟩
  cases exponentText with
  | absent => exact fun c first => ⟨(ends c first).1, (ends c first).2.1⟩
  | bare marked _ => exact marks marked _
  | plus marked _ => exact marks marked _
  | minus marked _ => exact marks marked _

theorem scanFraction_complete {fraction : List Char} {places : Option (List Char)}
    (fractionText : FractionText fraction places) {rest : List Char}
    (ends : ∀ c ∈ rest.head?, isAsciiDigit c = false ∧ c ≠ '.') :
    scanFraction (fraction ++ rest) = .ok (places, rest) ∧ NoDigitNext (fraction ++ rest) := by
  cases fractionText with
  | absent =>
      refine ⟨scanFraction_of_absent fun c first => (ends c first).2, ?_⟩
      exact fun c first => (ends c first).1
  | places run =>
      refine ⟨scanFraction_of_digits run fun c first => (ends c first).1, fun c first => ?_⟩
      obtain rfl := Option.some.inj first
      rfl

theorem scanUnsigned_of_parts {limits : Limits} {negative : Bool}
    {digits fraction exponent : List Char} {places : Option (List Char)} {power : Option Int}
    {value : Value} (whole : WholeText digits) (fractionText : FractionText fraction places)
    (exponentText : ExponentText exponent power)
    (number : numberOf limits negative digits places power = .ok value) {rest : List Char}
    (ends : NumberEnds rest) :
    scanUnsigned limits negative (digits ++ (fraction ++ (exponent ++ rest))) =
      .ok (value, rest) := by
  obtain ⟨fractioned, noDigit⟩ :=
    scanFraction_complete fractionText (head_exponent exponentText ends)
  have exponented := scanExponent_complete exponentText ends.noDigitNext ends.noMark
  rw [scanUnsigned_eq, digitRun_of_digits whole.1 noDigit,
    if_neg ((wholeText_iff whole.1.2).mpr whole), fractioned]
  simp only [bind, Except.bind, exponented, number]
  rfl

/-- **Every text of a number is read** where it ends. -/
theorem scanUnsigned_complete {limits : Limits} {negative : Bool} {body : List Char} {value : Value}
    (spelled : UnsignedText limits negative body value) {rest : List Char}
    (ends : NumberEnds rest) :
    scanUnsigned limits negative (body ++ rest) = .ok (value, rest) := by
  cases spelled with
  | integer whole few =>
      exact scanUnsigned_of_parts whole .absent .absent (if_neg (Nat.not_lt_of_le few)) ends
  | real whole few fractionText exponentText isReal =>
      rw [List.append_assoc, List.append_assoc]
      refine scanUnsigned_of_parts whole fractionText exponentText ?_ ends
      rw [numberOf_real isReal, if_neg (any_lt_iff.mpr few)]

end Typeahead.Json
