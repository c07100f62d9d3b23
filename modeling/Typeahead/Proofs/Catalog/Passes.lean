import Typeahead.Catalog.Source
import Typeahead.Proofs.Catalog.Names

/-!
# Passes of one source

A pass that is asked for names reads lines one after another, and what it has
brought so far is what the lines that it has read come to (`Reads`): every line
behind the first one is a name, or malformed, or nothing.  The first request sets
the count of the source to zero, so nothing that earlier passes have left there
can be seen in a later one (`visit_reads_lines`).  A pass that is asked until it
has brought what is wanted delivers what a pass over its feed delivers
(`visit_eq_pass`).
-/

namespace Typeahead.Catalog

set_option autoImplicit false

/-! ## Lines that are read -/

/-- The lines among those read that are not the first line of the catalog. -/
def rowsOf (headerSkipped : Bool) (read : List (List Char)) : List (List Char) :=
  if headerSkipped then read else read.drop 1

theorem rowsOf_append (headerSkipped : Bool) (first second : List (List Char)) :
    rowsOf headerSkipped (first ++ second) =
      rowsOf headerSkipped first ++ rowsOf (headerSkipped || !first.isEmpty) second := by
  cases headerSkipped with
  | true => rfl
  | false => cases first <;> rfl

/-- Reading lines leads from one state to another and brings names and notices. -/
structure Reads (state : PassState) (read : List (List Char)) (after : PassState)
    (names : List String) (notices : List Notice) : Prop where
  headerSkipped_eq : after.headerSkipped = (state.headerSkipped || !read.isEmpty)
  malformed_eq :
    after.malformed = state.malformed + (rowsOf state.headerSkipped read).countP isMalformed
  names_eq : names = (rowsOf state.headerSkipped read).filterMap nameOn
  notices_eq : notices = (rowsOf state.headerSkipped read).filterMap noticeOn

namespace Reads

variable {state between after : PassState} {first second : List (List Char)}
  {names others : List String} {notices further : List Notice}

theorem nothing (state : PassState) : Reads state [] state [] [] := by
  cases skipped : state.headerSkipped <;> constructor <;> simp [rowsOf, skipped]

/-- Lines that are read after others. -/
theorem append (front : Reads state first between names notices)
    (back : Reads between second after others further) :
    Reads state (first ++ second) after (names ++ others) (notices ++ further) where
  headerSkipped_eq := by
    rw [back.headerSkipped_eq, front.headerSkipped_eq]
    cases first <;> simp
  malformed_eq := by
    rw [back.malformed_eq, front.malformed_eq, front.headerSkipped_eq, rowsOf_append,
      List.countP_append, Nat.add_assoc]
  names_eq := by
    rw [front.names_eq, back.names_eq, front.headerSkipped_eq, rowsOf_append,
      List.filterMap_append]
  notices_eq := by
    rw [front.notices_eq, back.notices_eq, front.headerSkipped_eq, rowsOf_append,
      List.filterMap_append]

/-- One line. -/
theorem line (state : PassState) (text : String) :
    Reads state [text.toList] (state.line text).1 (state.line text).2.name.toList
      (state.line text).2.notices := by
  cases skipped : state.headerSkipped with
  | false => constructor <;> simp [PassState.line, rowsOf, skipped]
  | true =>
      obtain ⟨name, malformed, stays⟩ := line_of_skipped skipped text.toList
      have notices := notices_line_of_skipped skipped text.toList
      rw [String.ofList_toList] at name malformed stays notices
      constructor
      · simp [skipped, stays]
      · simp [rowsOf, skipped, malformed, List.countP_cons]
      · cases found : nameOn text.toList <;> simp [rowsOf, skipped, name, found]
      · cases found : noticeOn text.toList <;> simp [rowsOf, skipped, notices, found]

end Reads

/-! ## From one name to the next -/

/-- Nothing is reported about a line that brings a name. -/
theorem notices_line_of_name {state : PassState} {text name : String}
    (found : (state.line text).2.name = some name) : (state.line text).2.notices = [] := by
  rw [PassState.line] at found ⊢
  split at found
  next => cases found
  next skipped =>
    rw [if_neg skipped]
    cases parsed : parseRow text with
    | ok _ => rfl
    | error row => simp only [parsed, reduceCtorEq] at found

/-- The lines that are read on the way to the next name, and those that are left. -/
theorem exists_reads_seek (state : PassState) (signals : List Signal) :
    let found := seek state signals
    ∃ read, linesOf signals = read ++ linesOf found.signals ∧
      Reads state read found.state found.name.toList found.notices := by
  induction signals generalizing state with
  | nil => exact ⟨[], rfl, .nothing state⟩
  | cons signal signals inductionHypothesis =>
      cases signal with
      | pause seconds => exact inductionHypothesis state
      | line text =>
          have one := Reads.line state text
          cases name : (state.line text).2.name with
          | some found =>
              have silent : (state.line text).2.notices = [] := notices_line_of_name name
              rw [name, silent] at one
              simp only [seek, name]
              exact ⟨[text.toList], rfl, one⟩
          | none =>
              obtain ⟨read, lines, reads⟩ := inductionHypothesis (state.line text).1
              rw [name] at one
              simp only [seek, name]
              refine ⟨text.toList :: read, ?_, one.append reads⟩
              rw [linesOf_line, lines, List.cons_append]

/-- Where no name is found, nothing is left. -/
theorem signals_seek_of_none {state : PassState} {signals : List Signal}
    (nothing : (seek state signals).name = none) : (seek state signals).signals = [] := by
  induction signals generalizing state with
  | nil => rfl
  | cons signal signals inductionHypothesis =>
      cases signal with
      | pause seconds => exact inductionHypothesis nothing
      | line text =>
          cases name : (state.line text).2.name with
          | some found => simp only [seek, name, reduceCtorEq] at nothing
          | none =>
              simp only [seek, name] at nothing ⊢
              exact inductionHypothesis nothing

/-- What a pass has still to bring. -/
def OpenPass.ahead : OpenPass → List Signal
  | .fresh feed => feed.signals
  | .reading _ signals _ => signals
  | .finished => []

/-- What so many requests have led to, to a pass that stood in a state with these lines and this
failure before it: the lines that were read brought what was delivered, and if fewer names came than
were asked for, the pass is at its end. -/
structure Served (state : PassState) (lines : List (List Char)) (failure : Option SourceFault)
    (requests : Nat) (run : Delivery × Source × OpenPass) (read : List (List Char)) : Prop where
  lines_eq : lines = read ++ linesOf run.2.2.ahead
  reads : ∃ after, Reads state read after run.1.names run.1.notices ∧
    run.2.1.malformed = after.malformed
  counted : run.1.malformed = run.2.1.malformed
  ended : (run.1.names.length = requests ∧ run.1.failure = none) ∨
    (run.1.names.length < requests ∧ run.2.2.ahead = [] ∧ run.1.failure = failure)

/-- **Requests to a pass bring what the lines come to that are read for them.** -/
theorem exists_served_ask (requests : Nat) (source : Source) (headerSkipped : Bool)
    (signals : List Signal) (failure : Option SourceFault) :
    ∃ read, Served ⟨headerSkipped, source.malformed⟩ (linesOf signals) failure requests
      (OpenPass.ask requests source (.reading headerSkipped signals failure)) read := by
  induction requests generalizing source headerSkipped signals with
  | zero => exact ⟨[], rfl, ⟨_, .nothing _, rfl⟩, rfl, .inl ⟨rfl, rfl⟩⟩
  | succ requests inductionHypothesis =>
      let state : PassState := ⟨headerSkipped, source.malformed⟩
      obtain ⟨read, lines, reads⟩ := exists_reads_seek state signals
      cases name : (seek state signals).name with
      | none =>
          have spent := signals_seek_of_none name
          rw [name] at reads
          rw [spent] at lines
          refine ⟨read, ?_⟩
          simp only [OpenPass.ask, OpenPass.request, readOn, state, name]
          exact ⟨lines, ⟨_, reads, rfl⟩, rfl, .inr ⟨Nat.succ_pos _, rfl, rfl⟩⟩
      | some found =>
          obtain ⟨further, served⟩ := inductionHypothesis ⟨(seek state signals).state.malformed⟩
            (seek state signals).state.headerSkipped (seek state signals).signals
          obtain ⟨after, later, count⟩ := served.reads
          rw [name] at reads
          refine ⟨read ++ further, ?_⟩
          simp only [OpenPass.ask, OpenPass.request, readOn, state, name]
          refine ⟨?_, ⟨after, reads.append later, count⟩, served.counted, ?_⟩
          · rw [lines, served.lines_eq, List.append_assoc]
          · rcases served.ended with ⟨all, whole⟩ | ⟨fewer, spent, fails⟩
            · exact .inl ⟨congrArg Nat.succ all, whole⟩
            · exact .inr ⟨Nat.succ_lt_succ fewer, spent, fails⟩

/-! ## Whole passes -/

/-- The first request to a pass sets the count to zero, whatever it was. -/
theorem ask_fresh (requests : Nat) (source : Source) (feed : Feed) :
    OpenPass.ask (requests + 1) source (.fresh feed) =
      let run := OpenPass.ask (requests + 1) ⟨0⟩ (.reading false feed.signals feed.failure)
      ({ run.1 with notices := feed.opening.toList ++ run.1.notices }, run.2) := by
  cases name : (readOn ⟨0⟩ false feed.signals feed.failure).1.name with
  | none => simp only [OpenPass.ask, OpenPass.request, name]
  | some found => simp only [OpenPass.ask, OpenPass.request, name, List.append_assoc]

/-- A notice about a malformed line is an error. -/
theorem level_of_noticeOn {line : List Char} {notice : Notice}
    (reported : noticeOn line = some notice) : notice.level = .error := by
  rw [noticeOn] at reported
  cases parsed : parseRow (String.ofList line) with
  | ok _ => simp only [parsed, reduceCtorEq] at reported
  | error row =>
      simp only [parsed, Option.some.injEq] at reported
      rw [← reported]
      rfl

/-- A pass that has been asked for a name has delivered what the lines come to that it has read. -/
theorem exists_read_visit (source : Source) (feed : Feed) (requests : Nat) :
    let visit := source.visit feed (requests + 1)
    ∃ read, feed.lines = read ++ linesOf visit.2.2.ahead ∧
      visit.2.1.malformed = (read.drop 1).countP isMalformed ∧
      visit.1 =
        { names := (read.drop 1).filterMap nameOn
          malformed := (read.drop 1).countP isMalformed
          notices := feed.opening.toList ++ (read.drop 1).filterMap noticeOn
          failure := visit.1.failure } ∧
      (visit.1.names.length = requests + 1 ∧ visit.1.failure = none ∨
        visit.1.names.length < requests + 1 ∧ visit.2.2.ahead = [] ∧
          visit.1.failure = feed.failure) := by
  obtain ⟨read, served⟩ := exists_served_ask (requests + 1) ⟨0⟩ false feed.signals feed.failure
  obtain ⟨after, reads, counted⟩ := served.reads
  have malformed : after.malformed = (read.drop 1).countP isMalformed :=
    reads.malformed_eq.trans (Nat.zero_add _)
  simp only [Source.visit, ask_fresh]
  refine ⟨read, served.lines_eq, counted.trans malformed, ?_, served.ended⟩
  rw [served.counted, counted, malformed, reads.names_eq, reads.notices_eq]
  rfl

/-- **What a pass delivers depends on the lines that it has read and on nothing else.**  Whatever
the earlier passes over a source were asked for and however they ended, a pass that has been asked
for a name has read some first lines, and left the others.  It has delivered the names on those of
them that stand behind the first line, has counted the malformed ones among them in the source, and
has reported each of these once, as an error.  If it has not brought all names that were asked for,
it has read all lines and ended as its feed does. -/
theorem visit_reads_lines (source : Source) (earlier : List (Feed × Nat)) (feed : Feed)
    {requests : Nat} (started : 1 ≤ requests) :
    let visit := (source.visits earlier).2.visit feed requests
    let delivery := visit.1
    visit = ({} : Source).visit feed requests ∧
      ∃ count ≤ feed.lines.length,
        let rows := (feed.lines.take count).drop 1
        let reports := rows.filterMap noticeOn
        linesOf visit.2.2.ahead = feed.lines.drop count ∧
          delivery.names = rows.filterMap nameOn ∧
          visit.2.1.malformed = rows.countP isMalformed ∧
          delivery.malformed = visit.2.1.malformed ∧
          delivery.notices = feed.opening.toList ++ reports ∧
          reports.length = rows.countP isMalformed ∧
          (∀ notice ∈ reports, notice.level = .error) ∧
          (delivery.names.length = requests ∧ delivery.failure = none ∨
            delivery.names.length < requests ∧ count = feed.lines.length ∧
              delivery.failure = feed.failure) := by
  intro visit delivery
  obtain ⟨requests, rfl⟩ := Nat.exists_eq_add_of_le' started
  refine ⟨(ask_fresh requests _ feed).trans (ask_fresh requests {} feed).symm, ?_⟩
  obtain ⟨read, lines, counted, delivered, ended⟩ :=
    exists_read_visit (source.visits earlier).2 feed requests
  refine ⟨read.length, ?_, ?_⟩
  · rw [lines, List.length_append]
    exact Nat.le_add_right _ _
  · intro rows reports
    have same : rows = read.drop 1 := by
      simp only [rows, lines, List.take_left]
    refine ⟨?_, ?_, ?_, ?_, ?_, length_filterMap_noticeOn rows, ?_, ?_⟩
    · rw [lines, List.drop_left]
    · exact (congrArg Delivery.names delivered).trans (same ▸ rfl)
    · exact counted.trans (same ▸ rfl)
    · exact (congrArg Delivery.malformed delivered).trans counted.symm
    · exact (congrArg Delivery.notices delivered).trans (same ▸ rfl)
    · intro notice member
      obtain ⟨line, _, reported⟩ := List.mem_filterMap.mp member
      exact level_of_noticeOn reported
    · refine ended.imp_right fun ⟨fewer, spent, fails⟩ => ⟨fewer, ?_, fails⟩
      rw [lines, spent]
      exact congrArg List.length (List.append_nil read).symm

/-- A feed of three names with a malformed line behind the first name and one behind the last. -/
def scrappyFeed : Feed :=
  { opening := some ⟨.info, "Reading"⟩
    signals := signalsOfLines
      ["\x7b\"rows\":[".toList, "\x7b\"id\":\"redis\"\x7d,".toList, "oops".toList,
        "\x7b\"id\":\"redux\"\x7d".toList, "oops".toList, "\x7b\"id\":\"react\"\x7d".toList] }

/-- The feed has been read to its end, then up to a failure, then not at all. -/
def earlierPasses : List (Feed × Nat) :=
  [(scrappyFeed, 9), ({ scrappyFeed with failure := some (.stated "gone") }, 9), (scrappyFeed, 0)]

/-- Two names are asked for next.  The two malformed lines of the earlier passes are forgotten, and
the fifth line is not read. -/
theorem visit_reads_scrappyFeed :
    (({} : Source).visits earlierPasses).2.malformed = 2 ∧ 1 ≤ 2 ∧
      ((({} : Source).visits earlierPasses).2.visit scrappyFeed 2).1.names = ["redis", "redux"] ∧
      ((({} : Source).visits earlierPasses).2.visit scrappyFeed 2).2.1.malformed = 1 ∧
      linesOf ((({} : Source).visits earlierPasses).2.visit scrappyFeed 2).2.2.ahead =
        scrappyFeed.lines.drop 4 := by
  obtain ⟨-, count, inside, left, names, malformed, -⟩ :=
    visit_reads_lines {} earlierPasses scrappyFeed (by decide : 1 ≤ 2)
  have two :
      (linesOf ((({} : Source).visits earlierPasses).2.visit scrappyFeed 2).2.2.ahead).length = 2 := by
    decide +kernel
  have six : scrappyFeed.lines.length = 6 := by decide +kernel
  rw [left, List.length_drop] at two
  have four : count = 4 := by omega
  rw [four] at left names malformed
  refine ⟨by decide +kernel, by decide, ?_, ?_, left⟩
  · rw [names]
    decide +kernel
  · rw [malformed]
    decide +kernel

/-! ## Deliveries -/

/-- Delivering from signals is delivering the next name, and then from what is left. -/
theorem deliver_eq_of_none (failure : Option SourceFault) (wanted : Option Nat) {state : PassState}
    {signals : List Signal} (nothing : (seek state signals).name = none) :
    deliver failure wanted state signals =
      { malformed := (seek state signals).state.malformed
        notices := (seek state signals).notices, failure } := by
  induction signals generalizing state with
  | nil => rfl
  | cons signal signals inductionHypothesis =>
      cases signal with
      | pause seconds => exact inductionHypothesis nothing
      | line text =>
          cases name : (state.line text).2.name with
          | some found => simp only [seek, name, reduceCtorEq] at nothing
          | none =>
              simp only [seek, name] at nothing
              simp only [deliver, seek, name, inductionHypothesis nothing]

theorem deliver_eq_of_some (failure : Option SourceFault) (wanted : Option Nat) {state : PassState}
    {signals : List Signal} {name : String} (found : (seek state signals).name = some name) :
    deliver failure wanted state signals =
      if wanted = some 1 then
        { names := [name], malformed := (seek state signals).state.malformed
          notices := (seek state signals).notices }
      else
        let rest := deliver failure (wanted.map (· - 1)) (seek state signals).state
          (seek state signals).signals
        { rest with names := name :: rest.names
                    notices := (seek state signals).notices ++ rest.notices } := by
  induction signals generalizing state with
  | nil => simp only [seek, reduceCtorEq] at found
  | cons signal signals inductionHypothesis =>
      cases signal with
      | pause seconds => exact inductionHypothesis found
      | line text =>
          cases here : (state.line text).2.name with
          | some first =>
              simp only [seek, here] at found ⊢
              obtain rfl := Option.some.inj found
              simp only [deliver, here, List.nil_append]
          | none =>
              simp only [seek, here] at found
              simp only [deliver, seek, here, inductionHypothesis found]
              split
              · rfl
              · simp only [List.append_assoc]

/-- A name takes its line away from what is left. -/
theorem length_signals_seek_lt {state : PassState} {signals : List Signal} {name : String}
    (found : (seek state signals).name = some name) :
    (seek state signals).signals.length < signals.length := by
  induction signals generalizing state with
  | nil => simp only [seek, reduceCtorEq] at found
  | cons signal signals inductionHypothesis =>
      cases signal with
      | pause seconds => exact Nat.lt_succ_of_lt (inductionHypothesis found)
      | line text =>
          cases here : (state.line text).2.name with
          | some first =>
              simp only [seek, here]
              exact Nat.lt_succ_self _
          | none =>
              simp only [seek, here] at found ⊢
              exact Nat.lt_succ_of_lt (inductionHypothesis found)

section Deliveries

variable (source : Source) (headerSkipped : Bool) (signals : List Signal)
  (failure : Option SourceFault)

theorem ask_eq_deliver_some (requests : Nat) :
    (OpenPass.ask (requests + 1) source (.reading headerSkipped signals failure)).1 =
      deliver failure (some (requests + 1)) ⟨headerSkipped, source.malformed⟩ signals := by
  induction requests generalizing source headerSkipped signals with
  | zero =>
      cases name : (seek ⟨headerSkipped, source.malformed⟩ signals).name with
      | none =>
          rw [deliver_eq_of_none _ _ name]
          simp only [OpenPass.ask, OpenPass.request, readOn, name]
      | some found =>
          rw [deliver_eq_of_some _ _ name]
          simp only [OpenPass.ask, OpenPass.request, readOn, name, List.append_nil, if_true]
  | succ requests inductionHypothesis =>
      cases name : (seek ⟨headerSkipped, source.malformed⟩ signals).name with
      | none =>
          rw [deliver_eq_of_none _ _ name]
          simp only [OpenPass.ask, OpenPass.request, readOn, name]
      | some found =>
          have more : ¬ some (requests + 1 + 1) = some 1 := by simp
          rw [deliver_eq_of_some _ _ name, if_neg more, OpenPass.ask]
          simp only [OpenPass.request, readOn, name, inductionHypothesis, Option.map_some,
            Nat.add_sub_cancel]

theorem ask_eq_deliver_none {requests : Nat} (enough : signals.length < requests) :
    (OpenPass.ask requests source (.reading headerSkipped signals failure)).1 =
      deliver failure none ⟨headerSkipped, source.malformed⟩ signals := by
  induction requests generalizing source headerSkipped signals with
  | zero => exact absurd enough (Nat.not_lt_zero _)
  | succ requests inductionHypothesis =>
      cases name : (seek ⟨headerSkipped, source.malformed⟩ signals).name with
      | none =>
          rw [deliver_eq_of_none _ _ name]
          simp only [OpenPass.ask, OpenPass.request, readOn, name]
      | some found =>
          have shorter := length_signals_seek_lt name
          have left := Nat.lt_of_lt_of_le shorter (Nat.le_of_lt_succ enough)
          rw [deliver_eq_of_some _ _ name, OpenPass.ask]
          simp only [OpenPass.request, readOn, name, inductionHypothesis _ _ _ left,
            Option.map_none, reduceCtorEq, if_false]

end Deliveries

/-- **A pass that is asked for the names that are wanted delivers what a pass over its feed
delivers**, whatever the source has counted before. -/
theorem visit_eq_pass (source : Source) (feed : Feed) :
    (source.visit feed feed.enough).1 = feed.pass none ∧
      ∀ requests, (source.visit feed (requests + 1)).1 = feed.pass (some (requests + 1)) := by
  refine ⟨?_, fun requests => ?_⟩
  · rw [Source.visit, Feed.enough, ask_fresh]
    simp only [ask_eq_deliver_none _ _ _ _ (Nat.lt_succ_self _)]
    rfl
  · rw [Source.visit, ask_fresh]
    simp only [ask_eq_deliver_some]
    rfl

end Typeahead.Catalog
