import Mathlib.Data.List.DropRight
import Mathlib.Data.List.TakeWhile
import Typeahead.Text.Blank

/-!
# Trimming

A text is its trimmed text between blanks (`exists_eq_trimBlank`), and blanks that
come to either end are trimmed away.  What stands between blanks and has no blank
at its ends is the trimmed text (`trimBlank_eq`).
-/

namespace Typeahead.Text

set_option autoImplicit false

/-- All of the characters are blanks. -/
def Blanks (text : List Char) : Prop := ∀ c ∈ text, isBlank c = true

theorem Blanks.nil : Blanks [] := fun _ member => absurd member List.not_mem_nil

theorem blanks_cons_iff {c : Char} {text : List Char} :
    Blanks (c :: text) ↔ isBlank c = true ∧ Blanks text := List.forall_mem_cons

theorem dropWhile_append_of_blanks {lead : List Char} (blanks : Blanks lead) (text : List Char) :
    (lead ++ text).dropWhile isBlank = text.dropWhile isBlank :=
  List.dropWhile_append_of_pos blanks

theorem Blanks.reverse {text : List Char} (blanks : Blanks text) : Blanks text.reverse :=
  fun c member => blanks c (List.mem_reverse.mp member)

theorem trimBlank_blanks_append {lead : List Char} (blanks : Blanks lead) (text : List Char) :
    trimBlank (lead ++ text) = trimBlank text := by
  rw [trimBlank, trimBy, dropWhile_append_of_blanks blanks]
  rfl

theorem trimBlank_append_blanks (text : List Char) {trail : List Char} (blanks : Blanks trail) :
    trimBlank (text ++ trail) = trimBlank text := by
  rw [trimBlank, trimBy, trimBlank, trimBy, List.dropWhile_append]
  split
  next empty =>
    rw [List.isEmpty_iff.mp empty, List.dropWhile_eq_nil_iff.mpr blanks]
  next => rw [List.reverse_append, dropWhile_append_of_blanks blanks.reverse]

theorem trimBlank_of_blanks {text : List Char} (blanks : Blanks text) : trimBlank text = [] := by
  have trimmed := trimBlank_blanks_append blanks []
  rwa [List.append_nil] at trimmed

/-- A line is its trimmed text between blanks. -/
theorem exists_eq_trimBlank (line : List Char) :
    ∃ lead trail, Blanks lead ∧ Blanks trail ∧ line = lead ++ (trimBlank line ++ trail) := by
  have behind : trimBlank line ++ (line.dropWhile isBlank).rtakeWhile isBlank =
      line.dropWhile isBlank := List.rdropWhile_append_rtakeWhile
  refine ⟨line.takeWhile isBlank, (line.dropWhile isBlank).rtakeWhile isBlank, ?_, ?_, ?_⟩
  · exact fun c => List.mem_takeWhile_imp
  · exact fun c => List.mem_rtakeWhile_imp
  · rw [behind, List.takeWhile_append_dropWhile]

/-- The text has no blank at its ends. -/
def Trimmed (text : List Char) : Prop :=
  (∀ c ∈ text.head?, isBlank c = false) ∧ ∀ c ∈ text.getLast?, isBlank c = false

theorem head?_dropWhile_isBlank (text : List Char) :
    ∀ c ∈ (text.dropWhile isBlank).head?, isBlank c = false := by
  induction text with
  | nil => exact fun _ first => nomatch first
  | cons c text inductionHypothesis =>
      rw [List.dropWhile_cons]
      cases blank : isBlank c with
      | true => exact inductionHypothesis
      | false =>
          intro d first
          obtain rfl := Option.some.inj first
          exact blank

theorem trimmed_trimBlank (text : List Char) : Trimmed (trimBlank text) := by
  constructor
  · intro c first
    have start : trimBlank text <+: text.dropWhile isBlank := List.rdropWhile_prefix isBlank _
    obtain ⟨rest, parts⟩ := List.head?_eq_some_iff.mp first
    obtain ⟨behind, whole⟩ := start
    refine head?_dropWhile_isBlank text c ?_
    rw [← whole, parts]
    rfl
  · intro c last
    rw [trimBlank, trimBy, List.getLast?_reverse] at last
    exact head?_dropWhile_isBlank _ c last

theorem dropWhile_of_head? {text : List Char} (sharp : ∀ c ∈ text.head?, isBlank c = false) :
    text.dropWhile isBlank = text := by
  cases text with
  | nil => rfl
  | cons c text =>
      rw [List.dropWhile_cons, sharp c rfl]
      rfl

theorem trimBlank_of_trimmed {text : List Char} (trimmed : Trimmed text) :
    trimBlank text = text := by
  have back : ∀ c ∈ text.reverse.head?, isBlank c = false := by
    rw [List.head?_reverse]
    exact trimmed.2
  rw [trimBlank, trimBy, dropWhile_of_head? trimmed.1, dropWhile_of_head? back,
    List.reverse_reverse]

/-- What stands between blanks, with no blank at its ends, is the trimmed text. -/
theorem trimBlank_eq {lead text trail : List Char} (leadBlanks : Blanks lead)
    (trailBlanks : Blanks trail) (trimmed : Trimmed text) :
    trimBlank (lead ++ (text ++ trail)) = text := by
  rw [trimBlank_blanks_append leadBlanks, trimBlank_append_blanks text trailBlanks,
    trimBlank_of_trimmed trimmed]

end Typeahead.Text
