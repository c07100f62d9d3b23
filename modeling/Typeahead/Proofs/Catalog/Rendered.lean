import Typeahead.Proofs.Catalog.Rows
import Typeahead.Proofs.Catalog.Sources
import Typeahead.Proofs.Text.LineEnds

/-!
# Reading a rendered catalog back

A catalog is rendered as a first line, one line for each name that holds a row with
this name, and the line that closes the list.  However the rows are spelled, and
however their lines end, a pass over the file yields the names in order and reports
no line (`pass_of_rendered`).
-/

namespace Typeahead.Catalog

open Typeahead.Files Typeahead.Json Typeahead.Text

set_option autoImplicit false

/-- The line holds a row with the name, with a comma behind it or without. -/
structure RowLine (name : String) (line : List Char) : Prop where
  row : ∃ text, IsRow text name ∧ (line = text ∨ line = text ++ [','])
  one : OneLine endsFileLine line

/-- The line that closes the list. -/
def closingLine : List Char := [']', '}']

/-- The lines behind the first one, with their ends: a row for each name, and the line that closes
the list, which need not have an end. -/
inductive Rendered : List String → List Char → Prop where
  | closing : Rendered [] closingLine
  | closingEnded {ending : List Char} (isEnd : IsLineEnd endsFileLine ending) :
      Rendered [] (closingLine ++ ending)
  | row {name : String} {names : List String} {line ending text : List Char}
      (isRow : RowLine name line) (isEnd : IsLineEnd endsFileLine ending)
      (rest : Rendered names text) : Rendered (name :: names) (line ++ (ending ++ text))

/-! ## One line -/

theorem blanks_of_spaces {text : List Char} (spaces : Spaces text) : Blanks text := by
  intro c member
  rcases spaces c member with rfl | rfl | rfl | rfl <;> rfl

/-- A row is an object between spaces, and stays one with other spaces. -/
theorem IsRow.exists_object {text : List Char} {name : String} (isRow : IsRow text name) :
    ∃ before inside behind, Spaces before ∧ Spaces behind ∧
      text = before ++ ('{' :: (inside ++ ['}']) ++ behind) ∧
      ∀ others, Spaces others → IsRow ('{' :: (inside ++ ['}']) ++ others) name := by
  obtain ⟨members, ⟨⟨before, body, behind, blankBefore, blankBehind, parts, isValue⟩, shallow⟩,
    named⟩ := isRow
  cases isValue with
  | positive number => cases number
  | negative number => cases number
  | object list =>
      refine ⟨before, _, behind, blankBefore, blankBehind, parts, ?_⟩
      intro others blank
      exact ⟨members, ⟨⟨[], _, others, .nil, blank, rfl, .object list⟩, shallow⟩, named⟩

/-- An object, or an object with spaces and a comma behind it, has no blank at its ends. -/
theorem trimmed_object {rest : List Char} {last : Char} (sharp : isBlank last = false) :
    Trimmed ('{' :: (rest ++ [last])) := by
  constructor
  · intro c first
    obtain rfl := Option.some.inj first
    rfl
  · intro c isLast
    rw [← List.cons_append, List.getLast?_concat] at isLast
    obtain rfl := Option.some.inj isLast
    exact sharp

/-- What is left of the line is a row with the name. -/
theorem RowLine.isRow {name : String} {line : List Char} (rowLine : RowLine name line) :
    IsRow (rowText (String.ofList line)) name := by
  obtain ⟨text, isRow, spelled⟩ := rowLine.row
  obtain ⟨before, inside, behind, blankBefore, blankBehind, rfl, stays⟩ := isRow.exists_object
  have lead := blanks_of_spaces blankBefore
  have left {rest : List Char} (cut : IsRowText line rest) : rowText (String.ofList line) = rest :=
    isRowText_iff.mp (by rwa [String.toList_ofList])
  rcases spelled with bare | comma
  · have trail := blanks_of_spaces blankBehind
    have noComma : ('{' :: (inside ++ ['}'])).getLast? ≠ some ',' := by
      rw [← List.cons_append, List.getLast?_concat]
      decide
    rw [left ⟨before, _, behind, lead, trail, trimmed_object rfl, bare, .inr ⟨rfl, noComma⟩⟩]
    have row := stays [] Spaces.nil
    rwa [List.append_nil] at row
  · have sharp : Trimmed ('{' :: (inside ++ ['}']) ++ behind ++ [',']) := by
      rw [List.cons_append, List.cons_append]
      exact trimmed_object rfl
    have parts : line = before ++ (('{' :: (inside ++ ['}']) ++ behind ++ [',']) ++ []) := by
      rw [comma, List.append_nil, List.append_assoc]
    rw [left ⟨before, _, [], lead, .nil, sharp, parts, .inl rfl⟩]
    exact stays behind blankBehind

theorem RowLine.ne_nil {name : String} {line : List Char} (rowLine : RowLine name line) :
    line ≠ [] := by
  rintro rfl
  obtain ⟨members, spelled, -⟩ := rowLine.isRow
  exact not_isPassedOver spelled (.inl rfl)

/-- The line yields its name, and is not malformed. -/
theorem RowLine.yieldOf_cons {name : String} {line : List Char} (rowLine : RowLine name line)
    (lines : List (List Char)) :
    yieldOf (line :: lines) = (name :: (yieldOf lines).1, (yieldOf lines).2) := by
  have parsed := parseRow_of_isRow rowLine.isRow
  rw [Catalog.yieldOf_cons, nameOn, isMalformed, parsed]
  rfl

theorem oneLine_closingLine : OneLine endsFileLine closingLine := by
  intro c member
  rcases List.mem_pair.mp member with rfl | rfl <;> decide

/-! ## All lines -/

/-- No line feed stands at the head of what follows the end of a line. -/
theorem head?_ne_of_oneLine {line : List Char} (one : OneLine endsFileLine line)
    (filled : line ≠ []) (rest : List Char) : (line ++ rest).head? ≠ some '\n' := by
  obtain ⟨c, others, rfl⟩ := List.exists_cons_of_ne_nil filled
  intro feed
  obtain rfl := Option.some.inj feed
  exact absurd (one '\n' List.mem_cons_self).2 (by decide)

theorem Rendered.head?_ne {names : List String} {text : List Char}
    (rendered : Rendered names text) : text.head? ≠ some '\n' := by
  cases rendered with
  | closing => decide
  | closingEnded isEnd => exact head?_ne_of_oneLine oneLine_closingLine (by decide) _
  | row isRow isEnd rest => exact head?_ne_of_oneLine isRow.one isRow.ne_nil _

/-- The rendered lines yield the names, and none of them is malformed. -/
theorem Rendered.yieldOf_lines {names : List String} {text : List Char}
    (rendered : Rendered names text) : yieldOf (linesBy endsFileLine text) = (names, 0) := by
  have closed : yieldOf [closingLine] = ([], 0) := by decide +kernel
  induction rendered with
  | closing => rwa [linesBy_of_oneLine oneLine_closingLine (by decide)]
  | closingEnded isEnd =>
      have apart : ([] : List Char).head? ≠ some '\n' := by decide
      have lines := linesBy_line oneLine_closingLine isEnd apart
      rw [List.append_nil] at lines
      rwa [lines]
  | row isRow isEnd rest inductionHypothesis =>
      rw [linesBy_line isRow.one isEnd rest.head?_ne, isRow.yieldOf_cons, inductionHypothesis]

/-- **A rendered catalog gives its names back.**  A pass over the file yields exactly the names of
the rows, in order; it counts no malformed line, reports none and does not fail. -/
theorem pass_of_rendered {tree : Tree} {path : Path} {header ending text : List Char}
    {names : List String} (one : OneLine endsFileLine header)
    (isEnd : IsLineEnd endsFileLine ending) (rendered : Rendered names text)
    (opened : tree.open path = .ok (encode (header ++ (ending ++ text)))) :
    (fileFeed tree path).pass none =
      { names, malformed := 0, failure := none,
        notices := [⟨.info, "Reading all packages data from " ++ path.text ++ "..."⟩] } := by
  obtain ⟨signals, noFailure⟩ := signals_fileFeed opened
  have opening : (fileFeed tree path).opening =
      some ⟨.info, "Reading all packages data from " ++ path.text ++ "..."⟩ := by
    rw [fileFeed, opened]
  rw [linesBy_line one isEnd rendered.head?_ne] at signals
  have silent : (linesBy endsFileLine text).filterMap noticeOn = [] := by
    rw [← List.length_eq_zero_iff, length_filterMap_noticeOn, rendered.yieldOf_lines]
  rw [pass_eq_of_lines signals, List.drop_succ_cons, List.drop_zero, rendered.yieldOf_lines, silent,
    opening, noFailure]
  rfl

/-- A row with two halves of a surrogate pair, an escape and a space behind it. -/
def escapedRow : List Char := "\x7b\"id\":\"\\ud83d\\ude00\\/x\"\x7d ".toList

/-- A row with another member, and with a line separator in its name. -/
def separatedRow : List Char := "\x7b\"n\":[1, null],\"id\":\"a\u2028b\"\x7d".toList

/-- Both rows, one with a comma, and the closing line, with three ends of lines. -/
def spelledRows : List Char :=
  (escapedRow ++ [',']) ++ (['\r'] ++ (separatedRow ++ (['\r', '\n'] ++ (closingLine ++ ['\n']))))

/-- The names come back as they are meant. -/
theorem pass_of_rendered_spelledRows :
    (fileFeed (treeOf (['['] ++ (['\n'] ++ spelledRows))) ⟨1, ["catalog"]⟩).pass none =
      { names := ["😀/x", "a\u2028b"], malformed := 0, failure := none,
        notices := [⟨.info, "Reading all packages data from /catalog..."⟩] } := by
  have feedEnd : IsLineEnd endsFileLine ['\n'] := .single (by decide) (by decide)
  have escaped : IsRow escapedRow "😀/x" := nameOfRow_eq_ok_iff.mp (by decide +kernel)
  have separated : IsRow separatedRow "a\u2028b" := nameOfRow_eq_ok_iff.mp (by decide +kernel)
  have first : RowLine "😀/x" (escapedRow ++ [',']) :=
    ⟨⟨escapedRow, escaped, .inr rfl⟩, by decide +kernel⟩
  have second : RowLine "a\u2028b" separatedRow :=
    ⟨⟨separatedRow, separated, .inl rfl⟩, by decide +kernel⟩
  have rendered : Rendered ["😀/x", "a\u2028b"] spelledRows :=
    .row first .carriage (.row second .carriageFeed (.closingEnded feedEnd))
  have one : OneLine endsFileLine ['['] := by decide
  exact pass_of_rendered one feedEnd rendered (open_treeOf _)

end Typeahead.Catalog
