import Typeahead.Proofs.Json.Containers

/-!
# Reading values

A text is read as a value just when it spells this value and the value is not
nested too deep (`read_eq_ok_iff`).  What the reader of values with some depth
reads follows from what the reader with one less reads, which it uses for the
parts of containers (`reads_scanWith`).
-/

namespace Typeahead.Json

open Typeahead.Decimal Typeahead.Text

set_option autoImplicit false

/-! ## Members -/

theorem reads_scanMember {inner : Scan Value} {Item : List Char → Value → Prop}
    (reads : Reads inner Item) : Reads (scanMember inner) (MemberText Item) where
  sound := by
    intro text member rest scanned
    rw [scanMember.eq_def] at scanned
    split at scanned
    next text =>
      obtain ⟨⟨name, behindName⟩, named, goesOn⟩ := exists_of_bind_eq_ok scanned
      obtain ⟨body, chars, rfl, isName, rfl⟩ := scanString_sound named
      obtain ⟨before, blankBefore, parts⟩ := exists_spaces_append_skipSpace behindName
      dsimp only at goesOn
      split at goesOn
      next behindColon token =>
        rw [token] at parts
        obtain ⟨⟨value, _⟩, valued, same⟩ := exists_of_bind_eq_ok goesOn
        obtain ⟨rfl, rfl⟩ := Prod.mk.inj (Except.ok.inj same)
        obtain ⟨behind, blankBehind, skipped⟩ := exists_spaces_append_skipSpace behindColon
        obtain ⟨valueText, cut, isValue⟩ := reads.sound valued
        refine ⟨'"' :: (body ++ '"' :: (before ++ ':' :: (behind ++ valueText))), ?_,
          .named isName blankBefore blankBehind isValue⟩
        rw [parts, skipped, cut]
        simp only [List.append_assoc, List.cons_append]
      next => exact nomatch goesOn
    next => exact nomatch scanned
  complete := by
    intro body member rest spelled ends
    cases spelled with
    | named isName blankBefore blankBehind isValue =>
        obtain ⟨c, text, rfl, starts⟩ := reads.starts isValue
        have value := reads.complete isValue ends
        rw [List.cons_append] at value
        simp only [List.cons_append, List.append_assoc, scanMember, scanString_complete isName,
          bind, Except.bind, skipSpace_append blankBefore, skipSpace_append blankBehind,
          skipSpace_cons (rfl : isSpace ':' = false), skipSpace_cons starts.1, value]
        rfl
  starts := by
    intro body member spelled
    cases spelled with
    | named => exact ⟨'"', _, rfl, rfl, by decide, by decide⟩

/-! ## Depth -/

/-- Items that spell their values and have a property. -/
theorem listText_and_iff {α : Type} {Item : List Char → α → Prop} {Holds : α → Prop}
    {body : List Char} {items : List α} :
    ListText (fun text item => Item text item ∧ Holds item) body items ↔
      ListText Item body items ∧ ∀ item ∈ items, Holds item := by
  constructor
  · intro list
    induction list with
    | empty blank => exact ⟨.empty blank, nofun⟩
    | last blankBefore isItem blankBehind =>
        exact ⟨.last blankBefore isItem.1 blankBehind, by simpa using isItem.2⟩
    | next blankBefore isItem blankBehind _ inductionHypothesis =>
        refine ⟨.next blankBefore isItem.1 blankBehind inductionHypothesis.1, ?_⟩
        exact List.forall_mem_cons.mpr ⟨isItem.2, inductionHypothesis.2⟩
  · rintro ⟨list, holds⟩
    induction list with
    | empty blank => exact .empty blank
    | last blankBefore isItem blankBehind =>
        exact .last blankBefore ⟨isItem, holds _ List.mem_cons_self⟩ blankBehind
    | next blankBefore isItem blankBehind _ inductionHypothesis =>
        rw [List.forall_mem_cons] at holds
        exact .next blankBefore ⟨isItem, holds.1⟩ blankBehind (inductionHypothesis holds.2)

theorem memberText_and_iff {Item : List Char → Value → Prop} {Holds : Value → Prop}
    {body : List Char} {member : String × Value} :
    MemberText (fun text value => Item text value ∧ Holds value) body member ↔
      MemberText Item body member ∧ Holds member.2 := by
  constructor
  · intro spelled
    cases spelled with
    | named isName blankBefore blankBehind isValue =>
        exact ⟨.named isName blankBefore blankBehind isValue.1, isValue.2⟩
  · rintro ⟨spelled, holds⟩
    cases spelled with
    | named isName blankBefore blankBehind isValue =>
        exact .named isName blankBefore blankBehind ⟨isValue, holds⟩

theorem listText_congr {α : Type} {first second : List Char → α → Prop}
    (same : ∀ text item, first text item ↔ second text item) {body : List Char} {items : List α} :
    ListText first body items ↔ ListText second body items := by
  have equal : first = second := funext fun text => funext fun item => propext (same text item)
  rw [equal]

variable {limits : Limits} {bound : Nat}

/-- The text spells the value, and the value is nested less deep than the bound. -/
def Within (limits : Limits) (bound : Nat) (text : List Char) (value : Value) : Prop :=
  ValueText limits text value ∧ value.nesting < bound

theorem within_array_iff {body : List Char} {items : List Value} :
    ListText (Within limits bound) body items ↔
      ListText (ValueText limits) body items ∧ (Value.array items).nesting < bound + 1 := by
  have parts : ListText (Within limits bound) body items ↔
      ListText (ValueText limits) body items ∧ ∀ item ∈ items, item.nesting < bound :=
    listText_and_iff
  rw [parts, Nat.lt_succ_iff, Value.nesting, nestingOfItems_le_iff]

theorem within_object_iff {body : List Char} {members : List (String × Value)} :
    ListText (MemberText (Within limits bound)) body members ↔
      ListText (MemberText (ValueText limits)) body members ∧
        (Value.object members).nesting < bound + 1 := by
  have parts : ListText (fun text member => MemberText (ValueText limits) text member ∧
        member.2.nesting < bound) body members ↔
      ListText (MemberText (ValueText limits)) body members ∧
        ∀ member ∈ members, member.2.nesting < bound :=
    listText_and_iff
  rw [Nat.lt_succ_iff, Value.nesting, nestingOfMembers_le_iff, ← parts]
  exact listText_congr fun text member => memberText_and_iff

/-! ## Values -/

theorem isClose_bracket : IsClose ']' := .inl rfl

theorem isClose_brace : IsClose '}' := .inr rfl

/-- A value that holds no other one is not nested. -/
theorem within_zero {text : List Char} {value : Value} (spelled : ValueText limits text value)
    (flat : value.nesting = 0) : Within limits (bound + 1) text value :=
  ⟨spelled, by omega⟩

theorem nesting_of_unsignedText {negative : Bool} {body : List Char} {value : Value}
    (spelled : UnsignedText limits negative body value) : value.nesting = 0 := by
  cases spelled with
  | integer | real => rw [Value.nesting] <;> exact nofun

theorem scanWith_sound {inner : Scan Value} (reads : Reads inner (Within limits bound))
    {text : List Char} {value : Value} {rest : List Char}
    (scanned : scanWith limits inner text = .ok (value, rest)) :
    ∃ body, text = body ++ rest ∧ Within limits (bound + 1) body value := by
  rw [scanWith.eq_def] at scanned
  split at scanned
  next text =>
    obtain ⟨⟨name, _⟩, string, same⟩ := exists_of_map_eq_ok scanned
    obtain ⟨rfl, rfl⟩ := Prod.mk.inj same
    obtain ⟨body, chars, rfl, spelled, rfl⟩ := scanString_sound string
    refine ⟨'"' :: (body ++ ['"']), by simp, within_zero (.string spelled) rfl⟩
  next text =>
    obtain ⟨⟨items, _⟩, container, same⟩ := exists_of_map_eq_ok scanned
    obtain ⟨rfl, rfl⟩ := Prod.mk.inj same
    obtain ⟨body, rfl, list⟩ := (scanContainer_eq_ok_iff reads isClose_bracket).mp container
    obtain ⟨inside, shallow⟩ := within_array_iff.mp list
    exact ⟨'[' :: (body ++ [']']), by simp, .array inside, shallow⟩
  next text =>
    obtain ⟨⟨members, _⟩, container, same⟩ := exists_of_map_eq_ok scanned
    obtain ⟨rfl, rfl⟩ := Prod.mk.inj same
    have readsMember := reads_scanMember reads
    obtain ⟨body, rfl, list⟩ := (scanContainer_eq_ok_iff readsMember isClose_brace).mp container
    obtain ⟨inside, shallow⟩ := within_object_iff.mp list
    exact ⟨'{' :: (body ++ ['}']), by simp, .object inside, shallow⟩
  next =>
    obtain ⟨rfl, rfl⟩ := Prod.mk.inj (Except.ok.inj scanned)
    exact ⟨_, rfl, within_zero .null rfl⟩
  next =>
    obtain ⟨rfl, rfl⟩ := Prod.mk.inj (Except.ok.inj scanned)
    exact ⟨_, rfl, within_zero .true rfl⟩
  next =>
    obtain ⟨rfl, rfl⟩ := Prod.mk.inj (Except.ok.inj scanned)
    exact ⟨_, rfl, within_zero .false rfl⟩
  next =>
    obtain ⟨rfl, rfl⟩ := Prod.mk.inj (Except.ok.inj scanned)
    exact ⟨_, rfl, within_zero .nan rfl⟩
  next =>
    obtain ⟨rfl, rfl⟩ := Prod.mk.inj (Except.ok.inj scanned)
    exact ⟨_, rfl, within_zero .infinity rfl⟩
  next =>
    obtain ⟨rfl, rfl⟩ := Prod.mk.inj (Except.ok.inj scanned)
    exact ⟨_, rfl, within_zero .minusInfinity rfl⟩
  next =>
    obtain ⟨body, rfl, number⟩ := scanUnsigned_sound scanned
    exact ⟨'-' :: body, rfl, within_zero (.negative number) (nesting_of_unsignedText number)⟩
  next =>
    obtain ⟨body, rfl, number⟩ := scanUnsigned_sound scanned
    exact ⟨body, rfl, within_zero (.positive number) (nesting_of_unsignedText number)⟩

/-- A number begins with a digit. -/
theorem UnsignedText.exists_digit {negative : Bool} {body : List Char} {value : Value}
    (spelled : UnsignedText limits negative body value) :
    ∃ c behind, body = c :: behind ∧ isAsciiDigit c = true := by
  cases spelled with
  | integer whole _ =>
      obtain ⟨c, behind, rfl⟩ := List.exists_cons_of_ne_nil whole.1.1
      exact ⟨c, behind, rfl, whole.1.2 c List.mem_cons_self⟩
  | real whole _ _ _ _ =>
      obtain ⟨c, behind, rfl⟩ := List.exists_cons_of_ne_nil whole.1.1
      exact ⟨c, _, rfl, whole.1.2 c List.mem_cons_self⟩

theorem ne_of_isAsciiDigit {c other : Char} (digit : isAsciiDigit c = true)
    (noDigit : isAsciiDigit other = false) : c ≠ other := by
  rintro rfl
  rw [noDigit] at digit
  exact nomatch digit

theorem startsItem_of_isAsciiDigit {c : Char} (digit : isAsciiDigit c = true) : StartsItem c := by
  refine ⟨?_, ne_of_isAsciiDigit digit rfl, ne_of_isAsciiDigit digit rfl⟩
  rw [Bool.eq_false_iff, Ne, isSpace_iff]
  rintro (rfl | rfl | rfl | rfl) <;> exact nomatch digit

theorem scanWith_digit {c : Char} (digit : isAsciiDigit c = true) (inner : Scan Value)
    (text : List Char) :
    scanWith limits inner (c :: text) = scanUnsigned limits false (c :: text) := by
  have other {d : Char} (noDigit : isAsciiDigit d = false) (behind : List Char)
      (same : c :: text = d :: behind) : False :=
    ne_of_isAsciiDigit digit noDigit (List.cons.inj same).1
  rw [scanWith] <;> exact fun behind => other rfl _

theorem scanWith_minus {c : Char} (digit : isAsciiDigit c = true) (inner : Scan Value)
    (text : List Char) :
    scanWith limits inner ('-' :: c :: text) = scanUnsigned limits true (c :: text) := by
  rw [scanWith]
  intro behind same
  exact ne_of_isAsciiDigit digit rfl (List.cons.inj same).1

theorem scanWith_complete {inner : Scan Value} (reads : Reads inner (Within limits bound))
    {body : List Char} {value : Value} (within : Within limits (bound + 1) body value)
    {rest : List Char} (ends : NumberEnds rest) :
    scanWith limits inner (body ++ rest) = .ok (value, rest) := by
  obtain ⟨spelled, shallow⟩ := within
  cases spelled with
  | null | true | false | nan | infinity | minusInfinity => rfl
  | positive number =>
      obtain ⟨c, behind, rfl, digit⟩ := number.exists_digit
      exact (scanWith_digit digit inner _).trans (scanUnsigned_complete number ends)
  | negative number =>
      obtain ⟨c, behind, rfl, digit⟩ := number.exists_digit
      exact (scanWith_minus digit inner _).trans (scanUnsigned_complete number ends)
  | string inside =>
      rw [List.cons_append, List.append_assoc, scanWith]
      exact congrArg _ (scanString_complete inside rest)
  | array inside =>
      have container : scanContainer inner ']' (_ ++ ']' :: rest) = .ok (_, rest) :=
        (scanContainer_eq_ok_iff reads isClose_bracket).mpr
          ⟨_, rfl, within_array_iff.mpr ⟨inside, shallow⟩⟩
      rw [List.cons_append, List.append_assoc, scanWith]
      exact congrArg _ container
  | object inside =>
      have container : scanContainer (scanMember inner) '}' (_ ++ '}' :: rest) = .ok (_, rest) :=
        (scanContainer_eq_ok_iff (reads_scanMember reads) isClose_brace).mpr
          ⟨_, rfl, within_object_iff.mpr ⟨inside, shallow⟩⟩
      rw [List.cons_append, List.append_assoc, scanWith]
      exact congrArg _ container

theorem ValueText.starts {body : List Char} {value : Value}
    (spelled : ValueText limits body value) :
    ∃ c behind, body = c :: behind ∧ StartsItem c := by
  cases spelled with
  | positive number =>
      obtain ⟨c, behind, rfl, digit⟩ := number.exists_digit
      exact ⟨c, behind, rfl, startsItem_of_isAsciiDigit digit⟩
  | _ => exact ⟨_, _, rfl, rfl, by decide, by decide⟩

/-- **A reader of the parts of containers makes a reader of values**, with one more depth. -/
theorem reads_scanWith {inner : Scan Value} (reads : Reads inner (Within limits bound)) :
    Reads (scanWith limits inner) (Within limits (bound + 1)) where
  sound := scanWith_sound reads
  complete := fun within ends => scanWith_complete reads within ends
  starts := fun within => within.1.starts

/-- **Values are read to the depth that is allowed.** -/
theorem reads_scanValue (depth : Nat) :
    Reads (scanValue limits depth) (Within limits (depth + 1)) := by
  induction depth with
  | zero =>
      refine reads_scanWith ⟨?_, ?_, ?_⟩
      · exact nofun
      · exact fun within => absurd within.2 (Nat.not_lt_zero _)
      · exact fun within => absurd within.2 (Nat.not_lt_zero _)
  | succ depth inductionHypothesis => exact reads_scanWith inductionHypothesis

/-! ## Whole texts -/

theorem numberEnds_of_spaces {text : List Char} (spaces : Spaces text) : NumberEnds text := by
  have ends := numberEnds_append spaces (fun _ first => nomatch first : NumberEnds [])
  rwa [List.append_nil] at ends

theorem skipSpace_of_spaces {text : List Char} (spaces : Spaces text) : skipSpace text = [] := by
  have skipped := skipSpace_append spaces []
  rwa [List.append_nil] at skipped

/-- **A text is read just when it spells a value**, and then as this value. -/
theorem read_eq_ok_iff {text : List Char} {value : Value} :
    read limits text = .ok value ↔ JsonText limits text value := by
  have reads : Reads (scanValue limits limits.depth) (Within limits (limits.depth + 1)) :=
    reads_scanValue limits.depth
  constructor
  · intro isRead
    obtain ⟨⟨_, behindValue⟩, scanned, goesOn⟩ := exists_of_bind_eq_ok isRead
    obtain ⟨before, blankBefore, parts⟩ := exists_spaces_append_skipSpace text
    obtain ⟨behind, blankBehind, rest⟩ := exists_spaces_append_skipSpace behindValue
    obtain ⟨body, cut, spelled, shallow⟩ := reads.sound scanned
    dsimp only at goesOn
    split at goesOn
    next empty =>
      obtain rfl := Except.ok.inj goesOn
      rw [List.isEmpty_iff.mp empty, List.append_nil] at rest
      refine ⟨⟨before, body, behind, blankBefore, blankBehind, ?_, spelled⟩,
        Nat.le_of_lt_succ shallow⟩
      rw [parts, cut, rest]
    next => exact nomatch goesOn
  · rintro ⟨⟨before, body, behind, blankBefore, blankBehind, rfl, spelled⟩, shallow⟩
    have within : Within limits (limits.depth + 1) body value :=
      ⟨spelled, Nat.lt_succ_of_le shallow⟩
    have scanned := reads.complete within (numberEnds_of_spaces blankBehind)
    have start : skipSpace (before ++ (body ++ behind)) = body ++ behind :=
      skipSpace_item reads blankBefore within behind
    rw [read, start, scanned]
    simp only [bind, Except.bind, skipSpace_of_spaces blankBehind, List.isEmpty_nil, if_true]
    rfl

/-- A text spells at most one value. -/
theorem JsonText.unique {text : List Char} {first second : Value}
    (spellsFirst : JsonText limits text first) (spellsSecond : JsonText limits text second) :
    first = second := by
  have same := (read_eq_ok_iff.mpr spellsFirst).symm.trans (read_eq_ok_iff.mpr spellsSecond)
  exact Except.ok.inj same

end Typeahead.Json
