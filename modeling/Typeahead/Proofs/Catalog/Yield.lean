import Typeahead.Catalog.Pass
import Typeahead.Proofs.Text.Cutting
import Typeahead.Proofs.Text.Trimming

/-!
# What lines yield

A pass takes each line behind the first one for itself: the line brings a name,
or it counts as malformed, or neither (`pass_of_lines`).  Blanks around a row do
not matter to what it yields, so lines may be cut within these blanks
(`yieldOf_fragments`).
-/

namespace Typeahead.Catalog

open Typeahead.Text

set_option autoImplicit false

/-- The name that a line brings. -/
def nameOn (line : List Char) : Option String :=
  match parseRow (String.ofList line) with
  | .ok name => name
  | .error _ => none

/-- The line holds no row although it should. -/
def isMalformed (line : List Char) : Bool :=
  match parseRow (String.ofList line) with
  | .ok _ => false
  | .error _ => true

/-- What is reported about the line. -/
def noticeOn (line : List Char) : Option Notice :=
  match parseRow (String.ofList line) with
  | .ok _ => none
  | .error row => some row.notice

/-- What lines behind the first one yield: their names in order, and how many are malformed. -/
def yieldOf (lines : List (List Char)) : List String × Nat :=
  (lines.filterMap nameOn, lines.countP isMalformed)

theorem yieldOf_append (first second : List (List Char)) :
    yieldOf (first ++ second) =
      ((yieldOf first).1 ++ (yieldOf second).1, (yieldOf first).2 + (yieldOf second).2) := by
  simp only [yieldOf, List.filterMap_append, List.countP_append]

theorem yieldOf_append_congr {first second third fourth : List (List Char)}
    (front : yieldOf first = yieldOf second) (back : yieldOf third = yieldOf fourth) :
    yieldOf (first ++ third) = yieldOf (second ++ fourth) := by
  rw [yieldOf_append, yieldOf_append, front, back]

theorem yieldOf_cons (line : List Char) (lines : List (List Char)) :
    yieldOf (line :: lines) =
      ((nameOn line).toList ++ (yieldOf lines).1,
        (yieldOf lines).2 + if isMalformed line then 1 else 0) := by
  rw [yieldOf, List.filterMap_cons, List.countP_cons]
  cases nameOn line <;> rfl

/-- Each malformed line is reported once. -/
theorem length_filterMap_noticeOn (lines : List (List Char)) :
    (lines.filterMap noticeOn).length = (yieldOf lines).2 := by
  have same : (fun line => (noticeOn line).isSome) = isMalformed := by
    funext line
    rw [noticeOn, isMalformed]
    cases parseRow (String.ofList line) <;> rfl
  rw [List.length_filterMap_eq_countP, same]
  rfl

/-! ## Passes over lines -/

/-- What a line brings behind the first one, and what is counted then. -/
theorem line_of_skipped {state : PassState} (skipped : state.headerSkipped = true)
    (line : List Char) :
    (state.line (String.ofList line)).2.name = nameOn line ∧
      (state.line (String.ofList line)).1.malformed =
        state.malformed + (if isMalformed line then 1 else 0) ∧
      (state.line (String.ofList line)).1.headerSkipped = true := by
  cases parsed : parseRow (String.ofList line) with
  | ok name => simp [PassState.line, nameOn, isMalformed, skipped, parsed]
  | error row => simp [PassState.line, nameOn, isMalformed, skipped, parsed]

theorem deliver_signalsOfLines (failure : Option SourceFault) {state : PassState}
    (skipped : state.headerSkipped = true) (lines : List (List Char)) :
    (deliver failure none state (signalsOfLines lines)).names = (yieldOf lines).1 ∧
      (deliver failure none state (signalsOfLines lines)).malformed =
        state.malformed + (yieldOf lines).2 := by
  induction lines generalizing state with
  | nil => exact ⟨rfl, rfl⟩
  | cons line lines inductionHypothesis =>
      obtain ⟨name, malformed, skippedNext⟩ := line_of_skipped skipped line
      obtain ⟨names, count⟩ := inductionHypothesis skippedNext
      rw [malformed] at count
      have signals : signalsOfLines (line :: lines) =
          .line (String.ofList line) :: signalsOfLines lines := rfl
      rw [signals, yieldOf_cons]
      cases found : nameOn line with
      | none =>
          rw [found] at name
          simp only [deliver, name, names, count, Option.toList_none, List.nil_append, true_and]
          omega
      | some _ =>
          rw [found] at name
          simp only [deliver, name, Option.map_none, reduceCtorEq, if_false, names, count,
            Option.toList_some, List.singleton_append, true_and]
          omega

theorem notices_line_of_skipped {state : PassState} (skipped : state.headerSkipped = true)
    (line : List Char) :
    (state.line (String.ofList line)).2.notices = (noticeOn line).toList := by
  cases parsed : parseRow (String.ofList line) with
  | ok name => simp [PassState.line, noticeOn, skipped, parsed]
  | error row => simp [PassState.line, noticeOn, skipped, parsed]

theorem noticeOn_of_nameOn {line : List Char} {name : String} (found : nameOn line = some name) :
    noticeOn line = none := by
  rw [noticeOn]
  cases parsed : parseRow (String.ofList line) with
  | ok _ => rfl
  | error row =>
      rw [nameOn, parsed] at found
      exact nomatch found

theorem notices_deliver_signalsOfLines (failure : Option SourceFault) {state : PassState}
    (skipped : state.headerSkipped = true) (lines : List (List Char)) :
    (deliver failure none state (signalsOfLines lines)).notices = lines.filterMap noticeOn := by
  induction lines generalizing state with
  | nil => rfl
  | cons line lines inductionHypothesis =>
      obtain ⟨name, -, skippedNext⟩ := line_of_skipped skipped line
      have notices := notices_line_of_skipped skipped line
      have rest := inductionHypothesis skippedNext
      have signals : signalsOfLines (line :: lines) =
          .line (String.ofList line) :: signalsOfLines lines := rfl
      rw [signals, List.filterMap_cons]
      cases found : nameOn line with
      | none =>
          rw [found] at name
          simp only [deliver, name, notices, rest]
          cases noticeOn line <;> rfl
      | some _ =>
          rw [found] at name
          simp only [deliver, name, Option.map_none, reduceCtorEq, if_false, rest,
            noticeOn_of_nameOn found]

/-- **A pass over lines yields what the lines behind the first one yield.** -/
theorem pass_of_lines {feed : Feed} {lines : List (List Char)}
    (signals : feed.signals = signalsOfLines lines) :
    ((feed.pass none).names, (feed.pass none).malformed) = yieldOf (lines.drop 1) := by
  rw [Feed.pass, signals]
  cases lines with
  | nil => rfl
  | cons header lines =>
      have skipped : ({ headerSkipped := true } : PassState).headerSkipped = true := rfl
      obtain ⟨names, malformed⟩ := deliver_signalsOfLines feed.failure skipped lines
      exact Prod.ext names (malformed.trans (Nat.zero_add _))

/-- A pass over lines reports the malformed ones behind the first one. -/
theorem notices_of_lines {feed : Feed} {lines : List (List Char)}
    (signals : feed.signals = signalsOfLines lines) :
    (feed.pass none).notices = feed.opening.toList ++ (lines.drop 1).filterMap noticeOn := by
  rw [Feed.pass, signals]
  cases lines with
  | nil => rfl
  | cons header lines =>
      have skipped : ({ headerSkipped := true } : PassState).headerSkipped = true := rfl
      exact congrArg _ (notices_deliver_signalsOfLines feed.failure skipped lines)

theorem failure_deliver (failure : Option SourceFault) (state : PassState)
    (signals : List Signal) : (deliver failure none state signals).failure = failure := by
  induction signals generalizing state with
  | nil => rfl
  | cons signal signals inductionHypothesis =>
      cases signal with
      | pause seconds => exact inductionHypothesis state
      | line text =>
          cases name : (state.line text).2.name with
          | none => simp only [deliver, name, inductionHypothesis]
          | some found =>
              simp only [deliver, name, Option.map_none, reduceCtorEq, if_false,
                inductionHypothesis]

/-- A pass that nothing breaks off ends as its feed does. -/
theorem Feed.failure_pass (feed : Feed) : (feed.pass none).failure = feed.failure :=
  failure_deliver feed.failure {} feed.signals

/-- What a pass over lines delivers. -/
theorem pass_eq_of_lines {feed : Feed} {lines : List (List Char)}
    (signals : feed.signals = signalsOfLines lines) :
    feed.pass none =
      { names := (yieldOf (lines.drop 1)).1, malformed := (yieldOf (lines.drop 1)).2,
        notices := feed.opening.toList ++ (lines.drop 1).filterMap noticeOn,
        failure := feed.failure } := by
  rw [← pass_of_lines signals, ← notices_of_lines signals, ← feed.failure_pass]

/-! ## Lines that are cut -/

theorem yieldOf_singleton_congr {first second : List Char}
    (trimmed : trimBlank first = trimBlank second) : yieldOf [first] = yieldOf [second] := by
  have rows : rowText (String.ofList first) = rowText (String.ofList second) := by
    rw [rowText, rowText, String.toList_ofList, String.toList_ofList, trimmed]
  have parsed : parseRow (String.ofList first) = parseRow (String.ofList second) := by
    rw [parseRow, parseRow, rows]
  have names : nameOn first = nameOn second := by rw [nameOn, nameOn, parsed]
  have malformed : isMalformed first = isMalformed second := by
    rw [isMalformed, isMalformed, parsed]
  rw [yieldOf_cons, yieldOf_cons, names, malformed]

theorem yieldOf_blanks {lines : List (List Char)} (blanks : ∀ line ∈ lines, Blanks line) :
    yieldOf lines = ([], 0) := by
  induction lines with
  | nil => rfl
  | cons line lines inductionHypothesis =>
      obtain ⟨blank, rest⟩ := List.forall_mem_cons.mp blanks
      have trimmed : trimBlank line = trimBlank [] := trimBlank_of_blanks blank
      have nothing : yieldOf [[]] = ([], 0) := by decide +kernel
      have one := (yieldOf_singleton_congr trimmed).trans nothing
      rw [← List.singleton_append, yieldOf_append, one, inductionHypothesis rest]
      rfl

theorem blanks_of_mem_fragments {line : List Char} (blanks : Blanks line) :
    ∀ part ∈ fragments line, Blanks part := by
  induction line with
  | nil =>
      intro part member
      rw [List.mem_singleton.mp member]
      exact .nil
  | cons c line inductionHypothesis =>
      obtain ⟨blank, others⟩ := blanks_cons_iff.mp blanks
      have rest := inductionHypothesis others
      cases cut : cutsBodyOnly c with
      | true =>
          rw [fragments_cons_of_cut cut]
          exact List.forall_mem_cons.mpr ⟨.nil, rest⟩
      | false =>
          obtain ⟨first, further, parts⟩ := List.exists_cons_of_ne_nil (fragments_ne_nil line)
          rw [parts, List.forall_mem_cons] at rest
          rw [fragments_cons_of_not_cut cut parts]
          exact List.forall_mem_cons.mpr ⟨blanks_cons_iff.mpr ⟨blank, rest.1⟩, rest.2⟩

/-- Cutting the blanks in front of a text does not change what it yields. -/
theorem yieldOf_fragments_blanks_append {lead : List Char} (blanks : Blanks lead)
    (text : List Char) : yieldOf (fragments (lead ++ text)) = yieldOf (fragments text) := by
  induction lead with
  | nil => rfl
  | cons c lead inductionHypothesis =>
      obtain ⟨blank, others⟩ := blanks_cons_iff.mp blanks
      rw [← inductionHypothesis others, List.cons_append]
      cases cut : cutsBodyOnly c with
      | true =>
          have empty : ∀ line ∈ [[]], Blanks line := List.forall_mem_singleton.mpr .nil
          rw [fragments_cons_of_cut cut, ← List.singleton_append, yieldOf_append,
            yieldOf_blanks empty, List.nil_append, Nat.zero_add]
      | false =>
          obtain ⟨first, further, parts⟩ :=
            List.exists_cons_of_ne_nil (fragments_ne_nil (lead ++ text))
          have single : Blanks [c] := List.forall_mem_singleton.mpr blank
          have trimmed : trimBlank (c :: first) = trimBlank first :=
            trimBlank_blanks_append single first
          have front : yieldOf [c :: first] = yieldOf [first] := yieldOf_singleton_congr trimmed
          rw [fragments_cons_of_not_cut cut parts, parts]
          exact yieldOf_append_congr front rfl

/-- A text that is not cut, with blanks behind it, falls into fragments of which the first one
trims to the same and the others are blank. -/
theorem exists_fragments_append_blanks {core trail : List Char} (uncut : Uncut core)
    (blanks : Blanks trail) :
    ∃ first others, fragments (core ++ trail) = first :: others ∧
      trimBlank first = trimBlank core ∧ ∀ part ∈ others, Blanks part := by
  obtain ⟨first, others, parts⟩ := List.exists_cons_of_ne_nil (fragments_ne_nil trail)
  have silent := blanks_of_mem_fragments blanks
  rw [parts, List.forall_mem_cons] at silent
  exact ⟨core ++ first, others, fragments_append_of_uncut uncut parts,
    trimBlank_append_blanks core silent.1, silent.2⟩

/-- **A row that is cut in the blanks around it yields what it yields uncut.** -/
theorem yieldOf_fragments {line : List Char} (margins : Uncut (trimBlank line)) :
    yieldOf (fragments line) = yieldOf [line] := by
  obtain ⟨lead, trail, leadBlanks, trailBlanks, parts⟩ := exists_eq_trimBlank line
  obtain ⟨first, others, cut, core, silent⟩ := exists_fragments_append_blanks margins trailBlanks
  have trimmed : trimBlank first = trimBlank line :=
    core.trans (trimBlank_of_trimmed (trimmed_trimBlank line))
  calc yieldOf (fragments line)
      = yieldOf (fragments (trimBlank line ++ trail)) := by
        conv => lhs; rw [parts, yieldOf_fragments_blanks_append leadBlanks]
    _ = yieldOf ([first] ++ others) := congrArg yieldOf cut
    _ = yieldOf ([line] ++ []) :=
        yieldOf_append_congr (yieldOf_singleton_congr trimmed) (yieldOf_blanks silent)
    _ = yieldOf [line] := rfl

theorem yieldOf_flatMap_fragments {rows : List (List Char)}
    (margins : ∀ row ∈ rows, Uncut (trimBlank row)) :
    yieldOf (rows.flatMap fragments) = yieldOf rows := by
  induction rows with
  | nil => rfl
  | cons row rows inductionHypothesis =>
      obtain ⟨uncut, rest⟩ := List.forall_mem_cons.mp margins
      have front := yieldOf_fragments uncut
      have back := inductionHypothesis rest
      rw [List.flatMap_cons]
      exact yieldOf_append_congr front back

/-- A first line that is cut in the blanks behind it leaves fragments that yield nothing. -/
theorem yieldOf_header_fragments {header : List Char}
    (margin : Uncut (header.rdropWhile isBlank)) :
    yieldOf ((fragments header).drop 1) = ([], 0) := by
  have parts : header.rdropWhile isBlank ++ header.rtakeWhile isBlank = header :=
    List.rdropWhile_append_rtakeWhile
  have blanks : Blanks (header.rtakeWhile isBlank) := fun _ => List.mem_rtakeWhile_imp
  obtain ⟨first, others, cut, _, silent⟩ := exists_fragments_append_blanks margin blanks
  rw [← parts, cut]
  exact yieldOf_blanks silent

/-- A body is cut in the lines of a file only where nothing is lost: behind the first line, and in
the blanks around every other one. -/
structure CutInMargins (lines : List (List Char)) : Prop where
  header : ∀ header ∈ lines.head?, Uncut (header.rdropWhile isBlank)
  rows : ∀ row ∈ lines.drop 1, Uncut (trimBlank row)

instance (lines : List (List Char)) : Decidable (CutInMargins lines) :=
  decidable_of_iff
    ((lines.head?.all fun header => (header.rdropWhile isBlank).all fun c => !cutsBodyOnly c) &&
      (lines.drop 1).all fun row => (trimBlank row).all fun c => !cutsBodyOnly c)
    (by
      simp only [Bool.and_eq_true, Option.all_eq_true, List.all_eq_true, Bool.not_eq_true']
      exact ⟨fun ⟨header, rows⟩ => ⟨header, rows⟩, fun margins => ⟨margins.header, margins.rows⟩⟩)

theorem yieldOf_drop_flatMap_fragments {lines : List (List Char)} (margins : CutInMargins lines) :
    yieldOf ((lines.flatMap fragments).drop 1) = yieldOf (lines.drop 1) := by
  cases lines with
  | nil => rfl
  | cons header rows =>
      have silent := yieldOf_header_fragments (margins.header header rfl)
      have rest := yieldOf_flatMap_fragments margins.rows
      have some : 1 ≤ (fragments header).length := List.length_pos_iff.mpr (fragments_ne_nil header)
      rw [List.drop_succ_cons, List.drop_zero] at rest ⊢
      rw [List.flatMap_cons, List.drop_append_of_le_length some, yieldOf_append, silent, rest,
        List.nil_append, Nat.zero_add]

/-- **The lines of a body yield what the lines of a file yield** when the body is cut in the
margins. -/
theorem yieldOf_body_lines {text : List Char}
    (margins : CutInMargins (linesBy endsFileLine text)) :
    yieldOf ((linesBy endsBodyLine text).drop 1) =
      yieldOf ((linesBy endsFileLine text).drop 1) := by
  obtain ⟨nothing, empty, lines⟩ := exists_flatMap_fragments_eq text
  have silent (count : Nat) : yieldOf (nothing.drop count) = ([], 0) := by
    refine yieldOf_blanks fun line member => ?_
    have inside := List.mem_of_mem_drop member
    rcases empty with rfl | rfl
    · exact absurd inside List.not_mem_nil
    · rw [List.mem_singleton.mp inside]
      exact nofun
  rw [← yieldOf_drop_flatMap_fragments margins, lines, List.drop_append, yieldOf_append, silent,
    List.append_nil]
  rfl

end Typeahead.Catalog
