import Typeahead.Proofs.Catalog.Yield

/-!
# The names of a feed

The names that a pass delivers when it is not broken off, and the lines that it
counts as malformed, one signal after another.  Only the lines of a feed matter
to a pass (`deliver_linesOf`), so it yields what the lines behind the first one
yield (`Feed.pass_eq`).
-/

namespace Typeahead.Catalog

set_option autoImplicit false

/-- The names that are still to come, with the first lines taken already. -/
def namesAhead (state : PassState) (signals : List Signal) : List String :=
  (deliver none none state signals).names

@[simp] theorem namesAhead_nil (state : PassState) : namesAhead state [] = [] := rfl

@[simp] theorem namesAhead_pause (state : PassState) (seconds : Rat) (signals : List Signal) :
    namesAhead state (.pause seconds :: signals) = namesAhead state signals := rfl

theorem namesAhead_line_of_none {state : PassState} {text : String}
    (nothing : (state.line text).2.name = none) (signals : List Signal) :
    namesAhead state (.line text :: signals) = namesAhead (state.line text).1 signals := by
  simp only [namesAhead, deliver, nothing]

theorem namesAhead_line_of_some {state : PassState} {text name : String}
    (found : (state.line text).2.name = some name) (signals : List Signal) :
    namesAhead state (.line text :: signals) = name :: namesAhead (state.line text).1 signals := by
  simp only [namesAhead, deliver, found, Option.map_none, reduceCtorEq, if_false]

/-- A failure at the end takes no name away. -/
theorem names_deliver (failure : Option SourceFault) (state : PassState) (signals : List Signal) :
    (deliver failure none state signals).names = namesAhead state signals := by
  induction signals generalizing state with
  | nil => rfl
  | cons signal signals inductionHypothesis =>
      cases signal with
      | pause seconds => exact inductionHypothesis state
      | line text =>
          cases name : (state.line text).2.name with
          | none =>
              rw [namesAhead_line_of_none name, ← inductionHypothesis]
              simp only [deliver, name]
          | some found =>
              rw [namesAhead_line_of_some name, ← inductionHypothesis]
              simp only [deliver, name, Option.map_none, reduceCtorEq, if_false]

/-- The malformed lines that will have been counted at the end, with the first lines taken
already. -/
def malformedAhead (state : PassState) (signals : List Signal) : Nat :=
  (deliver none none state signals).malformed

@[simp] theorem malformedAhead_nil (state : PassState) :
    malformedAhead state [] = state.malformed := rfl

@[simp] theorem malformedAhead_pause (state : PassState) (seconds : Rat) (signals : List Signal) :
    malformedAhead state (.pause seconds :: signals) = malformedAhead state signals := rfl

theorem malformedAhead_line (state : PassState) (text : String) (signals : List Signal) :
    malformedAhead state (.line text :: signals) = malformedAhead (state.line text).1 signals := by
  cases name : (state.line text).2.name with
  | none => simp only [malformedAhead, deliver, name]
  | some found =>
      simp only [malformedAhead, deliver, name, Option.map_none, reduceCtorEq, if_false]

/-- The names that a whole pass over a feed yields. -/
def Feed.names (feed : Feed) : List String :=
  (feed.pass none).names

theorem Feed.names_eq (feed : Feed) : feed.names = namesAhead {} feed.signals :=
  names_deliver feed.failure {} feed.signals

/-! ## The lines of a feed -/

/-- The line that a signal brings. -/
def Signal.line? : Signal → Option (List Char)
  | .line text => some text.toList
  | .pause _ => none

/-- The lines that signals bring. -/
def linesOf (signals : List Signal) : List (List Char) :=
  signals.filterMap Signal.line?

/-- The lines of a feed. -/
def Feed.lines (feed : Feed) : List (List Char) :=
  linesOf feed.signals

theorem linesOf_line (text : String) (signals : List Signal) :
    linesOf (.line text :: signals) = text.toList :: linesOf signals := rfl

theorem linesOf_pause (seconds : Rat) (signals : List Signal) :
    linesOf (.pause seconds :: signals) = linesOf signals := rfl

/-- A pass takes no notice of pauses. -/
theorem deliver_linesOf (failure : Option SourceFault) (wanted : Option Nat) (state : PassState)
    (signals : List Signal) :
    deliver failure wanted state (signalsOfLines (linesOf signals)) =
      deliver failure wanted state signals := by
  induction signals generalizing wanted state with
  | nil => rfl
  | cons signal signals inductionHypothesis =>
      cases signal with
      | pause seconds =>
          rw [linesOf_pause, inductionHypothesis, deliver]
      | line text =>
          have line : signalsOfLines (linesOf (.line text :: signals)) =
              .line text :: signalsOfLines (linesOf signals) := by
            rw [linesOf_line, signalsOfLines, List.map_cons, String.ofList_toList]
            rfl
          simp only [line, deliver, inductionHypothesis]

/-- **What a pass that nothing breaks off delivers.** -/
theorem Feed.pass_eq (feed : Feed) :
    feed.pass none =
      { names := (yieldOf (feed.lines.drop 1)).1, malformed := (yieldOf (feed.lines.drop 1)).2,
        notices := feed.opening.toList ++ (feed.lines.drop 1).filterMap noticeOn,
        failure := feed.failure } := by
  have lines : ({ feed with signals := signalsOfLines feed.lines } : Feed).pass none =
      feed.pass none := by
    rw [Feed.pass, Feed.pass, Feed.lines, deliver_linesOf]
  rw [← lines]
  exact pass_eq_of_lines rfl

/-- The names of a feed are those on the lines behind the first one. -/
theorem Feed.names_eq_filterMap (feed : Feed) :
    feed.names = (feed.lines.drop 1).filterMap nameOn := by
  rw [Feed.names, Feed.pass_eq]
  rfl

theorem Feed.malformedAhead_eq (feed : Feed) :
    malformedAhead {} feed.signals = (feed.lines.drop 1).countP isMalformed := by
  have whole := congrArg Delivery.malformed ({ feed with failure := none } : Feed).pass_eq
  exact whole

end Typeahead.Catalog
