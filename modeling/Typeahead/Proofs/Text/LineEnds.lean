import Typeahead.Proofs.Text.Cutting

/-!
# Lines and their ends

A text in which lines stand with their ends is cut into these lines
(`linesBy_line`).  The other way round, a line is only given away behind its end:
what a cutter has given away while it was fed are lines that stand in the text, one
after another, each with its end (`exists_ended_of_feed`).
-/

namespace Typeahead.Text

set_option autoImplicit false

variable {ends : Char → Bool}

/-- What ends a line: a carriage return, with or without a line feed behind it, or another
character that does. -/
inductive IsLineEnd (ends : Char → Bool) : List Char → Prop where
  | carriage : IsLineEnd ends ['\r']
  | carriageFeed : IsLineEnd ends ['\r', '\n']
  | single {c : Char} (isEnd : ends c = true) (notCarriage : c ≠ '\r') : IsLineEnd ends [c]

/-- Nothing in the text ends a line. -/
def OneLine (ends : Char → Bool) (text : List Char) : Prop :=
  ∀ c ∈ text, c ≠ '\r' ∧ ends c = false

instance (text : List Char) : Decidable (OneLine ends text) :=
  List.decidableBAll (fun c => c ≠ '\r' ∧ ends c = false) text

theorem OneLine.nil : OneLine ends [] := fun _ member => absurd member List.not_mem_nil

theorem oneLine_cons_iff {c : Char} {text : List Char} :
    OneLine ends (c :: text) ↔ (c ≠ '\r' ∧ ends c = false) ∧ OneLine ends text :=
  List.forall_mem_cons

theorem OneLine.reverse {text : List Char} (one : OneLine ends text) : OneLine ends text.reverse :=
  fun c member => one c (List.mem_reverse.mp member)

/-- Lines with their ends, one after another. -/
inductive Ended (ends : Char → Bool) : List (List Char) → List Char → Prop where
  | nil : Ended ends [] []
  | cons {line ending text : List Char} {lines : List (List Char)} (one : OneLine ends line)
      (isEnd : IsLineEnd ends ending) (rest : Ended ends lines text) :
      Ended ends (line :: lines) (line ++ (ending ++ text))

/-- What stands behind the last end: a line that has begun, perhaps with a carriage return to which
a line feed may still come. -/
inductive Unended (ends : Char → Bool) : List Char → Prop where
  | line {text : List Char} (one : OneLine ends text) : Unended ends text
  | returned {text : List Char} (one : OneLine ends text) : Unended ends (text ++ ['\r'])

theorem Ended.append {first second : List (List Char)} {front back : List Char}
    (ended : Ended ends first front) (further : Ended ends second back) :
    Ended ends (first ++ second) (front ++ back) := by
  induction ended with
  | nil => exact further
  | cons one isEnd _ inductionHypothesis =>
      rw [List.append_assoc, List.append_assoc]
      exact .cons one isEnd inductionHypothesis

theorem Ended.single {line ending : List Char} (one : OneLine ends line)
    (isEnd : IsLineEnd ends ending) : Ended ends [line] (line ++ ending) := by
  have ended := Ended.cons one isEnd .nil
  rwa [List.append_nil] at ended

/-! ## Cutting lines with their ends -/

/-- A text without an end of a line is held back. -/
theorem feed_of_oneLine {text : List Char} (one : OneLine ends text) (line rest : List Char) :
    Cutter.feed ends ⟨line, false⟩ (text ++ rest) =
      Cutter.feed ends ⟨text.reverse ++ line, false⟩ rest := by
  induction text generalizing line with
  | nil => rfl
  | cons c text inductionHypothesis =>
      obtain ⟨⟨notCarriage, notEnd⟩, others⟩ := oneLine_cons_iff.mp one
      have step : (⟨line, false⟩ : Cutter).step ends c = ([], ⟨c :: line, false⟩) := by
        simp [Cutter.step, Cutter.take, notCarriage, notEnd]
      rw [List.cons_append, Cutter.feed, step, inductionHypothesis others]
      simp

/-- A line that a carriage return has ended is given away with what comes, but for a line feed. -/
theorem linesBy_returned (line : List Char) {rest : List Char} (apart : rest.head? ≠ some '\n') :
    (Cutter.feed ends ⟨line, true⟩ rest).1 ++ (Cutter.feed ends ⟨line, true⟩ rest).2.finish =
      line.reverse :: linesBy ends rest := by
  cases rest with
  | nil => simp [Cutter.feed, Cutter.finish, Cutter.text, linesBy]
  | cons c rest =>
      have noFeed : c ≠ '\n' := fun isFeed => apart (congrArg some isFeed)
      simp [Cutter.feed, Cutter.step, Cutter.text, linesBy, noFeed]

/-- **A line with its end is cut off.**  A carriage return alone ends it where no line feed
follows. -/
theorem linesBy_line {line ending rest : List Char} (one : OneLine ends line)
    (isEnd : IsLineEnd ends ending) (apart : rest.head? ≠ some '\n') :
    linesBy ends (line ++ (ending ++ rest)) = line :: linesBy ends rest := by
  rw [linesBy, feed_of_oneLine one]
  cases isEnd with
  | carriage =>
      have step : (⟨line.reverse ++ [], false⟩ : Cutter).step ends '\r' =
          ([], ⟨line.reverse, true⟩) := by simp [Cutter.step, Cutter.take]
      simp only [List.cons_append, List.nil_append, Cutter.feed, step]
      rw [linesBy_returned _ apart, List.reverse_reverse]
  | carriageFeed =>
      simp [Cutter.feed, Cutter.step, Cutter.take, Cutter.text, linesBy]
  | single isEnd notCarriage =>
      simp [Cutter.feed, Cutter.step, Cutter.take, linesBy, isEnd, notCarriage]

/-- What stands behind the last end is a line, unless it is empty. -/
theorem linesBy_of_oneLine {line : List Char} (one : OneLine ends line) (some : line ≠ []) :
    linesBy ends line = [line] := by
  have fed := feed_of_oneLine one [] []
  rw [List.append_nil, List.append_nil] at fed
  rw [linesBy, fed]
  simp [Cutter.feed, Cutter.finish, Cutter.text, some]

/-! ## Lines that are given away -/

/-- What a cutter has read and not given away. -/
def Cutter.kept (cutter : Cutter) : List Char :=
  cutter.text ++ if cutter.returned then ['\r'] else []

theorem Cutter.unended_kept {cutter : Cutter} (one : OneLine ends cutter.line) :
    Unended ends cutter.kept := by
  rw [Cutter.kept]
  split
  next => exact .returned one.reverse
  next =>
    rw [List.append_nil]
    exact .line one.reverse

/-- A character at which no carriage return is held back completes a line or is kept. -/
theorem exists_ended_of_take {line : List Char} (one : OneLine ends line) (c : Char) :
    OneLine ends (Cutter.take ends line c).2.line ∧
      ∃ ended, line.reverse ++ [c] = ended ++ (Cutter.take ends line c).2.kept ∧
        Ended ends (Cutter.take ends line c).1 ended := by
  by_cases carriage : c = '\r'
  · simp only [Cutter.take, if_pos carriage]
    exact ⟨one, [], by rw [carriage]; rfl, .nil⟩
  · simp only [Cutter.take, if_neg carriage]
    cases isEnd : ends c with
    | true =>
        refine ⟨.nil, line.reverse ++ [c], (List.append_nil _).symm, ?_⟩
        exact .single one.reverse (.single isEnd carriage)
    | false =>
        refine ⟨oneLine_cons_iff.mpr ⟨⟨carriage, isEnd⟩, one⟩, [], ?_, .nil⟩
        simp [Cutter.kept, Cutter.text]

theorem exists_ended_of_step {cutter : Cutter} (one : OneLine ends cutter.line) (c : Char) :
    OneLine ends (cutter.step ends c).2.line ∧
      ∃ ended, cutter.kept ++ [c] = ended ++ (cutter.step ends c).2.kept ∧
        Ended ends (cutter.step ends c).1 ended := by
  obtain ⟨line, returned⟩ := cutter
  cases returned with
  | false =>
      simp only [Cutter.step, Bool.false_eq_true, if_false, Cutter.kept, Cutter.text,
        List.append_nil]
      exact exists_ended_of_take one c
  | true =>
      by_cases isFeed : c = '\n'
      · simp only [Cutter.step, if_true, if_pos isFeed]
        refine ⟨.nil, line.reverse ++ ['\r', '\n'], ?_, .single one.reverse .carriageFeed⟩
        simp [Cutter.kept, Cutter.text, isFeed]
      · simp only [Cutter.step, if_true, if_neg isFeed]
        obtain ⟨oneNext, ended, parts, isEnded⟩ := @exists_ended_of_take ends [] .nil c
        refine ⟨oneNext, line.reverse ++ ('\r' :: ended), ?_, .cons one.reverse .carriage isEnded⟩
        rw [List.append_assoc, List.cons_append, ← parts]
        simp [Cutter.kept, Cutter.text]

/-- **A cutter gives lines away behind their ends**, each of them, and keeps what has no end. -/
theorem exists_ended_of_feed {cutter : Cutter} (one : OneLine ends cutter.line)
    (text : List Char) :
    ∃ ended rest, cutter.kept ++ text = ended ++ rest ∧
      Ended ends (Cutter.feed ends cutter text).1 ended ∧ Unended ends rest := by
  induction text generalizing cutter with
  | nil => exact ⟨[], cutter.kept, List.append_nil _, .nil, cutter.unended_kept one⟩
  | cons c text inductionHypothesis =>
      obtain ⟨oneNext, first, parts, isEnded⟩ := exists_ended_of_step one c
      obtain ⟨further, rest, whole, areEnded, unended⟩ := inductionHypothesis oneNext
      refine ⟨first ++ further, rest, ?_, isEnded.append areEnded, unended⟩
      rw [List.append_cons, parts, List.append_assoc, whole, List.append_assoc]

end Typeahead.Text
