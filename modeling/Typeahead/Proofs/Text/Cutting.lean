import Typeahead.Text.Lines

/-!
# The lines of a file and the lines of a body

A cutter that is fed in parts cuts as if it were fed at once
(`Cutter.feed_append`).  A body is cut wherever a file is cut, and at a few more
characters; so the lines of a body are the fragments into which the lines of a
file fall, but for an empty one at the very end (`exists_flatMap_fragments_eq`).
-/

namespace Typeahead.Text

set_option autoImplicit false

/-- **It does not matter how a text is cut before it is fed.** -/
theorem Cutter.feed_append (ends : Char → Bool) (cutter : Cutter) (first second : List Char) :
    Cutter.feed ends cutter (first ++ second) =
      ((Cutter.feed ends cutter first).1 ++
          (Cutter.feed ends (Cutter.feed ends cutter first).2 second).1,
        (Cutter.feed ends (Cutter.feed ends cutter first).2 second).2) := by
  induction first generalizing cutter with
  | nil => rfl
  | cons c first inductionHypothesis =>
      simp only [List.cons_append, Cutter.feed, inductionHypothesis, List.append_assoc]

/-! ## Fragments -/

/-- A character at which a body is cut and a file is not. -/
def cutsBodyOnly (c : Char) : Bool :=
  endsBodyLine c && !endsFileLine c

/-- A body is not cut in the text where a file is not. -/
def Uncut (text : List Char) : Prop :=
  ∀ c ∈ text, cutsBodyOnly c = false

/-- The lines of a body into which a line of a file falls. -/
def fragments (line : List Char) : List (List Char) :=
  line.splitOnP cutsBodyOnly

theorem fragments_ne_nil (line : List Char) : fragments line ≠ [] :=
  List.splitOnP_ne_nil cutsBodyOnly line

theorem fragments_cons_of_cut {c : Char} (cut : cutsBodyOnly c = true) (line : List Char) :
    fragments (c :: line) = [] :: fragments line := by
  rw [fragments, List.splitOnP_cons_eq_if_modifyHead, if_pos cut]
  rfl

theorem fragments_cons_of_not_cut {c : Char} (uncut : cutsBodyOnly c = false)
    {line first : List Char} {others : List (List Char)}
    (falls : fragments line = first :: others) :
    fragments (c :: line) = (c :: first) :: others := by
  rw [fragments] at falls
  rw [fragments, List.splitOnP_cons_eq_if_modifyHead, if_neg (by simp [uncut]), falls]
  rfl

theorem fragments_append_cut (line : List Char) {c : Char} (cut : cutsBodyOnly c = true) :
    fragments (line ++ [c]) = fragments line ++ [[]] :=
  List.splitOnP_append_cons line [] cut

/-- A text that is not cut comes to the first fragment of what follows it. -/
theorem fragments_append_of_uncut {core : List Char} (uncut : Uncut core)
    {text first : List Char} {others : List (List Char)}
    (falls : fragments text = first :: others) :
    fragments (core ++ text) = (core ++ first) :: others := by
  induction core with
  | nil => exact falls
  | cons c core inductionHypothesis =>
      obtain ⟨head, rest⟩ := List.forall_mem_cons.mp uncut
      exact fragments_cons_of_not_cut head (inductionHypothesis rest)

/-- An empty line has an empty fragment and no other. -/
theorem eq_nil_of_fragments_nil {others : List (List Char)} {last : List Char}
    (falls : fragments [] = others ++ [last]) : others = [] ∧ last = [] := by
  have lengths := congrArg List.length falls
  simp only [fragments, List.splitOnP_nil, List.length_append, List.length_singleton] at lengths
  have none : others = [] := List.length_eq_zero_iff.mp (by omega)
  rw [none] at falls
  exact ⟨none, (List.singleton_inj.mp falls).symm⟩

/-- A character at which nothing is cut comes to the last fragment. -/
theorem fragments_append_of_not_cut {c : Char} (uncut : cutsBodyOnly c = false)
    {line last : List Char} {others : List (List Char)}
    (falls : fragments line = others ++ [last]) :
    fragments (line ++ [c]) = others ++ [last ++ [c]] := by
  induction line generalizing others last with
  | nil =>
      obtain ⟨rfl, rfl⟩ := eq_nil_of_fragments_nil falls
      exact fragments_cons_of_not_cut uncut rfl
  | cons b line inductionHypothesis =>
      rw [List.cons_append]
      cases cut : cutsBodyOnly b with
      | true =>
          rw [fragments_cons_of_cut cut] at falls ⊢
          cases others with
          | nil => exact absurd (List.cons.inj falls).2 (fragments_ne_nil line)
          | cons other others =>
              obtain ⟨rfl, parts⟩ := List.cons.inj falls
              rw [inductionHypothesis parts]
              rfl
      | false =>
          obtain ⟨first, rest, parts⟩ := List.exists_cons_of_ne_nil (fragments_ne_nil line)
          rw [fragments_cons_of_not_cut cut parts] at falls
          cases others with
          | nil =>
              obtain ⟨rfl, rfl⟩ := List.cons.inj falls
              have alone : fragments line = [] ++ [first] := parts
              have extended := inductionHypothesis alone
              exact fragments_cons_of_not_cut cut extended
          | cons other others =>
              obtain ⟨rfl, rfl⟩ := List.cons.inj falls
              have longer : fragments line = (first :: others) ++ [last] := parts
              have extended := inductionHypothesis longer
              exact fragments_cons_of_not_cut cut extended

/-! ## Two cutters on one text -/

/-- A cutter of a file and one of a body that have read the same: the fragments of the line that
the first one holds are those that the second one has given away, and the line that it holds. -/
structure Abreast (given : List (List Char)) (file body : Cutter) : Prop where
  returned : file.returned = body.returned
  fragments_eq : fragments file.text = given ++ [body.text]

theorem Abreast.start (returned : Bool) : Abreast [] ⟨[], returned⟩ ⟨[], returned⟩ := ⟨rfl, rfl⟩

/-- One more character at which no carriage return is held back. -/
theorem Abreast.take {given : List (List Char)} {fileLine bodyLine : List Char}
    (abreast : fragments fileLine.reverse = given ++ [bodyLine.reverse]) (c : Char) :
    ∃ left, Abreast left (Cutter.take endsFileLine fileLine c).2
        (Cutter.take endsBodyLine bodyLine c).2 ∧
      given ++ (Cutter.take endsBodyLine bodyLine c).1 =
        (Cutter.take endsFileLine fileLine c).1.flatMap fragments ++ left := by
  by_cases isReturn : c = '\r'
  · simp only [Cutter.take, if_pos isReturn]
    exact ⟨given, ⟨rfl, abreast⟩, List.append_nil given⟩
  · simp only [Cutter.take, if_neg isReturn]
    cases fileEnd : endsFileLine c with
    | true =>
        have isFeed : c = '\n' := beq_iff_eq.mp fileEnd
        have bodyEnd : endsBodyLine c = true := by rw [isFeed]; rfl
        rw [bodyEnd]
        exact ⟨[], Abreast.start false, by simp [abreast]⟩
    | false =>
        cases bodyEnd : endsBodyLine c with
        | true =>
            have cut : cutsBodyOnly c = true := by simp [cutsBodyOnly, fileEnd, bodyEnd]
            refine ⟨given ++ [bodyLine.reverse], ⟨rfl, ?_⟩, rfl⟩
            change fragments (c :: fileLine).reverse = _
            rw [List.reverse_cons, fragments_append_cut _ cut, abreast]
            rfl
        | false =>
            have uncut : cutsBodyOnly c = false := by simp [cutsBodyOnly, bodyEnd]
            refine ⟨given, ⟨rfl, ?_⟩, List.append_nil given⟩
            change fragments (c :: fileLine).reverse = given ++ [(c :: bodyLine).reverse]
            rw [List.reverse_cons, List.reverse_cons]
            exact fragments_append_of_not_cut uncut abreast

/-- **The two cutters stay abreast with every character.** -/
theorem Abreast.step {given : List (List Char)} {file body : Cutter}
    (abreast : Abreast given file body) (c : Char) :
    ∃ left, Abreast left (file.step endsFileLine c).2 (body.step endsBodyLine c).2 ∧
      given ++ (body.step endsBodyLine c).1 =
        (file.step endsFileLine c).1.flatMap fragments ++ left := by
  obtain ⟨returned, falls⟩ := abreast
  cases held : body.returned with
  | false =>
      rw [held] at returned
      simp only [Cutter.step, held, returned, Bool.false_eq_true, if_false]
      exact Abreast.take falls c
  | true =>
      rw [held] at returned
      simp only [Cutter.step, held, returned, if_true]
      by_cases isFeed : c = '\n'
      · simp only [if_pos isFeed]
        exact ⟨[], Abreast.start false, by simp [falls]⟩
      · simp only [if_neg isFeed]
        have fresh : fragments (List.reverse []) = [] ++ [List.reverse []] := rfl
        obtain ⟨left, next, lines⟩ := Abreast.take fresh c
        refine ⟨left, next, ?_⟩
        rw [List.flatMap_cons, falls, List.append_assoc, List.append_assoc, ← lines]
        rfl

theorem Abreast.feed {given : List (List Char)} {file body : Cutter}
    (abreast : Abreast given file body) (text : List Char) :
    ∃ left, Abreast left (Cutter.feed endsFileLine file text).2
        (Cutter.feed endsBodyLine body text).2 ∧
      given ++ (Cutter.feed endsBodyLine body text).1 =
        (Cutter.feed endsFileLine file text).1.flatMap fragments ++ left := by
  induction text generalizing given file body with
  | nil => exact ⟨given, abreast, List.append_nil given⟩
  | cons c text inductionHypothesis =>
      obtain ⟨between, stepped, first⟩ := abreast.step c
      obtain ⟨left, fed, rest⟩ := inductionHypothesis stepped
      refine ⟨left, fed, ?_⟩
      simp only [Cutter.feed, List.flatMap_append]
      rw [← List.append_assoc, first, List.append_assoc, rest, List.append_assoc]

/-- The line that is left, if any, falls into the fragments that have been given away and what is
left of the body. -/
theorem Abreast.finish {given : List (List Char)} {file body : Cutter}
    (abreast : Abreast given file body) :
    ∃ nothing, (nothing = [] ∨ nothing = [[]]) ∧
      file.finish.flatMap fragments = given ++ body.finish ++ nothing := by
  obtain ⟨returned, falls⟩ := abreast
  obtain ⟨fileLine, fileReturned⟩ := file
  obtain ⟨bodyLine, bodyReturned⟩ := body
  obtain rfl : fileReturned = bodyReturned := returned
  have text : fragments fileLine.reverse = given ++ [bodyLine.reverse] := falls
  cases fileReturned with
  | true =>
      refine ⟨[], .inl rfl, ?_⟩
      simp [Cutter.finish, Cutter.text, text]
  | false =>
      cases bodyLine with
      | cons c rest =>
          have someLine : fileLine ≠ [] := by
            rintro rfl
            have nothing := (eq_nil_of_fragments_nil text).2
            simp at nothing
          refine ⟨[], .inl rfl, ?_⟩
          simp [Cutter.finish, Cutter.text, text, someLine]
      | nil =>
          cases fileLine with
          | nil =>
              refine ⟨[], .inl rfl, ?_⟩
              simp [Cutter.finish, (eq_nil_of_fragments_nil text).1]
          | cons c rest =>
              refine ⟨[[]], .inr rfl, ?_⟩
              simp [Cutter.finish, Cutter.text, - List.reverse_cons, text]

/-- **The lines of a body are the fragments of the lines of a file**, but for an empty one at the
end. -/
theorem exists_flatMap_fragments_eq (text : List Char) :
    ∃ nothing, (nothing = [] ∨ nothing = [[]]) ∧
      (linesBy endsFileLine text).flatMap fragments = linesBy endsBodyLine text ++ nothing := by
  obtain ⟨left, fed, lines⟩ := (Abreast.start false).feed text
  obtain ⟨nothing, empty, rest⟩ := fed.finish
  refine ⟨nothing, empty, ?_⟩
  rw [List.nil_append] at lines
  simp only [linesBy, List.flatMap_append]
  rw [rest, ← List.append_assoc, ← List.append_assoc, ← lines]

end Typeahead.Text
