import Typeahead.Proofs.Json.Numbers

/-!
# Reading containers

What reads items reads the containers of these items
(`scanContainer_eq_ok_iff`).  The list of items ends with the bracket, so nothing
is asked of the text behind it.
-/

namespace Typeahead.Json

open Typeahead.Text

set_option autoImplicit false

variable {α : Type}

/-! ## Space -/

theorem isSpace_iff {c : Char} :
    isSpace c = true ↔ c = ' ' ∨ c = '\t' ∨ c = '\n' ∨ c = '\r' := by
  simp only [isSpace, Bool.or_eq_true, beq_iff_eq, or_assoc]

theorem Spaces.nil : Spaces [] := fun _ member => absurd member List.not_mem_nil

theorem Spaces.append {first second : List Char} (front : Spaces first) (back : Spaces second) :
    Spaces (first ++ second) := by
  intro c member
  rcases List.mem_append.mp member with member | member
  · exact front c member
  · exact back c member

/-- A text is space and what is left without it. -/
theorem exists_spaces_append_skipSpace (text : List Char) :
    ∃ lead, Spaces lead ∧ text = lead ++ skipSpace text :=
  ⟨text.takeWhile isSpace, fun _ member => isSpace_iff.mp (List.mem_takeWhile_imp member),
    List.takeWhile_append_dropWhile.symm⟩

theorem skipSpace_append {lead : List Char} (spaces : Spaces lead) (text : List Char) :
    skipSpace (lead ++ text) = skipSpace text :=
  List.dropWhile_append_of_pos fun c member => isSpace_iff.mpr (spaces c member)

theorem skipSpace_cons {c : Char} (noSpace : isSpace c = false) (text : List Char) :
    skipSpace (c :: text) = c :: text := by
  rw [skipSpace, List.dropWhile_cons, noSpace]
  rfl

theorem numberEnds_cons_of_isSpace {c : Char} (space : isSpace c = true) (text : List Char) :
    NumberEnds (c :: text) := by
  intro d first
  obtain rfl := Option.some.inj first
  rcases isSpace_iff.mp space with rfl | rfl | rfl | rfl <;> decide

/-- A number ends where space, or a character at which it ends, stands. -/
theorem numberEnds_append {behind : List Char} (spaces : Spaces behind) {rest : List Char}
    (ends : NumberEnds rest) : NumberEnds (behind ++ rest) := by
  cases behind with
  | nil => exact ends
  | cons c behind =>
      have space : isSpace c = true := isSpace_iff.mpr (spaces c List.mem_cons_self)
      exact numberEnds_cons_of_isSpace space (behind ++ rest)

/-! ## Readers of items -/

/-- A character with which an item can begin. -/
def StartsItem (c : Char) : Prop :=
  isSpace c = false ∧ c ≠ ']' ∧ c ≠ '}'

/-- A scanner takes from the front of a text just what spells the value that it returns, where the
text behind it cannot be taken for the rest of a number. -/
structure Reads (scan : Scan α) (Item : List Char → α → Prop) : Prop where
  sound : ∀ {text value rest}, scan text = .ok (value, rest) →
    ∃ body, text = body ++ rest ∧ Item body value
  complete : ∀ {body value rest}, Item body value → NumberEnds rest →
    scan (body ++ rest) = .ok (value, rest)
  starts : ∀ {body value}, Item body value → ∃ c behind, body = c :: behind ∧ StartsItem c

/-- The brackets with which containers end. -/
def IsClose (close : Char) : Prop :=
  close = ']' ∨ close = '}'

theorem IsClose.numberEnds {close : Char} (closes : IsClose close) (rest : List Char) :
    NumberEnds (close :: rest) := by
  intro c first
  obtain rfl := Option.some.inj first
  rcases closes with rfl | rfl <;> decide

theorem IsClose.noSpace {close : Char} (closes : IsClose close) : isSpace close = false := by
  rcases closes with rfl | rfl <;> rfl

theorem IsClose.ne_comma {close : Char} (closes : IsClose close) : close ≠ ',' := by
  rcases closes with rfl | rfl <;> decide

theorem StartsItem.ne_close {c close : Char} (starts : StartsItem c) (closes : IsClose close) :
    c ≠ close := by
  rcases closes with rfl | rfl
  · exact starts.2.1
  · exact starts.2.2

/-! ## Lists of items -/

theorem ListText.spaces_append {Item : List Char → α → Prop} {lead body : List Char}
    {items : List α} (spaces : Spaces lead) (list : ListText Item body items) :
    ListText Item (lead ++ body) items := by
  cases list with
  | empty blank => exact .empty (spaces.append blank)
  | last blankBefore isItem blankBehind =>
      rw [← List.append_assoc]
      exact .last (spaces.append blankBefore) isItem blankBehind
  | next blankBefore isItem blankBehind rest =>
      rw [← List.append_assoc]
      exact .next (spaces.append blankBefore) isItem blankBehind rest

variable {scan : Scan α} {Item : List Char → α → Prop} {close : Char}

theorem scanItems_sound (reads : Reads scan Item) {bound : Nat} {text : List Char}
    {items : List α} {rest : List Char}
    (scanned : scanItems scan close bound text = .ok (items, rest)) :
    ∃ body first others, text = body ++ close :: rest ∧ items = first :: others ∧
      ListText Item body (first :: others) := by
  induction bound generalizing text items with
  | zero => exact nomatch scanned
  | succ bound inductionHypothesis =>
      rw [scanItems] at scanned
      obtain ⟨⟨first, behindItem⟩, item, goesOn⟩ := exists_of_bind_eq_ok scanned
      obtain ⟨body, rfl, isItem⟩ := reads.sound item
      obtain ⟨behind, blankBehind, parts⟩ := exists_spaces_append_skipSpace behindItem
      dsimp only at goesOn
      split at goesOn
      next => exact nomatch goesOn
      next c more token =>
        rw [token] at parts
        split at goesOn
        next isClose =>
          obtain ⟨rfl, rfl⟩ := Prod.mk.inj (Except.ok.inj goesOn)
          have list : ListText Item ([] ++ (body ++ behind)) [first] :=
            .last .nil isItem blankBehind
          refine ⟨body ++ behind, first, [], ?_, rfl, list⟩
          rw [parts, isClose, List.append_assoc]
        next =>
          split at goesOn
          next isComma =>
            obtain ⟨⟨others, behindOthers⟩, tailScanned, same⟩ := exists_of_bind_eq_ok goesOn
            obtain ⟨rfl, rfl⟩ := Prod.mk.inj (Except.ok.inj same)
            obtain ⟨lead, blankLead, skipped⟩ := exists_spaces_append_skipSpace more
            obtain ⟨tail, second, further, cut, rfl, tailList⟩ := inductionHypothesis tailScanned
            have list : ListText Item ([] ++ (body ++ (behind ++ ',' :: (lead ++ tail))))
                (first :: second :: further) :=
              .next .nil isItem blankBehind (tailList.spaces_append blankLead)
            refine ⟨body ++ (behind ++ ',' :: (lead ++ tail)), first, second :: further, ?_, rfl,
              list⟩
            rw [parts, skipped, cut, isComma]
            simp only [List.append_assoc, List.cons_append]
          next => exact nomatch goesOn

/-- The last item of a container. -/
theorem scanItems_close (reads : Reads scan Item) (closes : IsClose close) {body behind : List Char}
    {item : α} (isItem : Item body item) (blank : Spaces behind) (bound : Nat) (rest : List Char) :
    scanItems scan close (bound + 1) (body ++ (behind ++ close :: rest)) = .ok ([item], rest) := by
  have read := reads.complete isItem (numberEnds_append blank (closes.numberEnds rest))
  rw [scanItems, read]
  simp only [bind, Except.bind, skipSpace_append blank, skipSpace_cons closes.noSpace, if_true]
  rfl

/-- An item with further ones behind it. -/
theorem scanItems_comma (reads : Reads scan Item) (closes : IsClose close) {body behind : List Char}
    {item : α} (isItem : Item body item) (blank : Spaces behind) (bound : Nat) (more : List Char) :
    scanItems scan close (bound + 1) (body ++ (behind ++ ',' :: more)) =
      (scanItems scan close bound (skipSpace more)).map fun others =>
        (item :: others.1, others.2) := by
  have comma : NumberEnds (',' :: more) := by
    intro c first
    obtain rfl := Option.some.inj first
    decide
  have read := reads.complete isItem (numberEnds_append blank comma)
  rw [scanItems, read]
  simp only [bind, Except.bind, skipSpace_append blank, skipSpace_cons (rfl : isSpace ',' = false),
    if_neg closes.ne_comma.symm, if_true]
  cases scanItems scan close bound (skipSpace more) <;> rfl

/-- Space before an item is skipped, and no more. -/
theorem skipSpace_item (reads : Reads scan Item) {before body : List Char} {item : α}
    (blank : Spaces before) (isItem : Item body item) (rest : List Char) :
    skipSpace (before ++ (body ++ rest)) = body ++ rest := by
  obtain ⟨c, text, rfl, starts⟩ := reads.starts isItem
  rw [skipSpace_append blank, List.cons_append, skipSpace_cons starts.1]

theorem scanItems_complete (reads : Reads scan Item) (closes : IsClose close) {body : List Char}
    {items : List α} (list : ListText Item body items) (some : items ≠ []) {bound : Nat}
    (enough : items.length ≤ bound) (rest : List Char) :
    scanItems scan close bound (skipSpace (body ++ close :: rest)) = .ok (items, rest) := by
  induction list generalizing bound with
  | empty => exact absurd rfl some
  | last blankBefore isItem blankBehind =>
      cases bound with
      | zero => exact absurd enough (Nat.not_succ_le_zero _)
      | succ bound =>
          rw [List.append_assoc, List.append_assoc, skipSpace_item reads blankBefore isItem]
          exact scanItems_close reads closes isItem blankBehind bound rest
  | next blankBefore isItem blankBehind _ inductionHypothesis =>
      cases bound with
      | zero => exact absurd enough (Nat.not_succ_le_zero _)
      | succ bound =>
          have tail := inductionHypothesis (List.cons_ne_nil _ _) (Nat.le_of_succ_le_succ enough)
          rw [List.append_assoc, List.append_assoc, skipSpace_item reads blankBefore isItem,
            List.append_assoc, List.cons_append, scanItems_comma reads closes isItem blankBehind,
            tail]
          rfl

/-! ## Containers -/

/-- Every item takes a character. -/
theorem ListText.length_le (reads : Reads scan Item) {body : List Char} {items : List α}
    (list : ListText Item body items) (rest : List Char) :
    items.length ≤ (skipSpace (body ++ rest)).length := by
  induction list with
  | empty => exact Nat.zero_le _
  | last blankBefore isItem _ =>
      rw [List.append_assoc, List.append_assoc, skipSpace_item reads blankBefore isItem]
      obtain ⟨c, text, rfl, _⟩ := reads.starts isItem
      exact Nat.succ_le_succ (Nat.zero_le _)
  | @next _ _ _ more _ _ _ blankBefore isItem _ _ inductionHypothesis =>
      rw [List.append_assoc, List.append_assoc, skipSpace_item reads blankBefore isItem]
      have shorter : (skipSpace (more ++ rest)).length ≤ (more ++ rest).length :=
        List.length_dropWhile_le _ _
      simp only [List.length_cons, List.length_append] at inductionHypothesis shorter ⊢
      omega

/-- A list that is not empty begins with the first item. -/
theorem ListText.exists_starts (reads : Reads scan Item) {body : List Char} {items : List α}
    (list : ListText Item body items) (some : items ≠ []) (rest : List Char) :
    ∃ c behind, skipSpace (body ++ rest) = c :: behind ∧ StartsItem c := by
  cases list with
  | empty => exact absurd rfl some
  | last blankBefore isItem _ | next blankBefore isItem _ _ =>
      obtain ⟨c, text, rfl, starts⟩ := reads.starts isItem
      rw [List.append_assoc, List.append_assoc, skipSpace_item reads blankBefore isItem]
      exact ⟨c, _, rfl, starts⟩

/-- **What reads items reads containers of items.** -/
theorem scanContainer_eq_ok_iff (reads : Reads scan Item) (closes : IsClose close)
    {text : List Char} {items : List α} {rest : List Char} :
    scanContainer scan close text = .ok (items, rest) ↔
      ∃ body, text = body ++ close :: rest ∧ ListText Item body items := by
  constructor
  · intro scanned
    obtain ⟨lead, blankLead, parts⟩ := exists_spaces_append_skipSpace text
    rw [scanContainer] at scanned
    split at scanned
    next => exact nomatch scanned
    next c more token =>
      rw [token] at parts
      split at scanned
      next isClose =>
        obtain ⟨rfl, rfl⟩ := Prod.mk.inj (Except.ok.inj scanned)
        exact ⟨lead, by rw [parts, isClose], .empty blankLead⟩
      next =>
        obtain ⟨body, first, others, cut, rfl, list⟩ := scanItems_sound reads scanned
        refine ⟨lead ++ body, ?_, list.spaces_append blankLead⟩
        rw [parts, cut, List.append_assoc]
  · rintro ⟨body, rfl, list⟩
    cases items with
    | nil =>
        cases list with
        | empty blank =>
            rw [scanContainer, skipSpace_append blank, skipSpace_cons closes.noSpace]
            exact if_pos rfl
    | cons first others =>
        have some := List.cons_ne_nil first others
        obtain ⟨c, behind, token, starts⟩ := list.exists_starts reads some (close :: rest)
        have enough := list.length_le reads (close :: rest)
        have scanned := scanItems_complete reads closes list some enough rest
        rw [token] at scanned
        rw [scanContainer, token]
        exact (if_neg (starts.ne_close closes)).trans scanned

end Typeahead.Json
