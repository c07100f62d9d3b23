import Typeahead.Proofs.Schedule.Strides
import Typeahead.Proofs.Schedule.Ticks

/-!
# The timetable of the builds of a keeper

A keeper builds at once, and then at each tick of a ticker that it starts when its first
build has ended.  `Kept` says when builds have begun and ended in this way, and when the
next one is due.  It depends on nothing but on how long the builds last
(`Kept.due_eq_of_durations`).

The later builds begin at slots of the ticker or late, but before the next slot comes
(`Kept.grid`).  From this all that a timetable promises follows (`timetable_of_inStep`).
-/

namespace Typeahead.Schedule

set_option autoImplicit false

/-- How long the builds have lasted that began and ended at the given times. -/
def durations (begun ended : List Rat) : List Rat :=
  List.zipWith (fun stop start => stop - start) ended begun

theorem durations_take (begun ended : List Rat) (n : ℕ) :
    durations (begun.take n) (ended.take n) = (durations begun ended).take n :=
  List.take_zipWith.symm

/-- What the times at which builds have begun and ended promise. -/
structure Timetable (interval first : Rat) (begun ended : List Rat) : Prop where
  /-- at most one build is in progress -/
  alternate : ended.length ≤ begun.length ∧ begun.length ≤ ended.length + 1
  /-- the first build begins at its time -/
  begins : ∀ start : Rat, begun[0]? = some start → start = first
  lasts : ∀ (n : ℕ) (start stop : Rat), begun[n]? = some start → ended[n]? = some stop →
    start ≤ stop
  /-- a build has ended before a later one begins -/
  apart : ∀ (m n : ℕ) (stop start : Rat), m < n → ended[m]? = some stop →
    begun[n]? = some start → stop ≤ start
  /-- a later build waits for one interval behind the end of the first -/
  waits : ∀ (origin : Rat) (n : ℕ) (start : Rat), ended[0]? = some origin →
    begun[n + 1]? = some start → origin + interval ≤ start
  /-- no more than one build begins between two slots -/
  windows : ∀ (origin : Rat) (m n : ℕ) (earlier start : Rat), ended[0]? = some origin → m < n →
    begun[m]? = some earlier → begun[n]? = some start → ∀ slot : ℤ,
      ¬ (earlier ∈ Set.Ico (origin + slot * interval) (origin + (slot + 1) * interval) ∧
        start ∈ Set.Ico (origin + slot * interval) (origin + (slot + 1) * interval))
  /-- a later build begins at its own slot if all later builds before it have been short -/
  prompt : ∀ (origin : Rat) (n : ℕ) (start : Rat), ended[0]? = some origin →
    begun[n + 1]? = some start →
    (∀ m < n, ∀ lasted, (durations begun ended)[m + 1]? = some lasted → lasted < interval) →
      start = origin + (n + 1) * interval

/-- Builds have begun and ended at the given times, and the next one is due with a tick, or first
of all. -/
inductive Kept (plan : Plan) (first : Rat) : List Rat → List Rat → Option Ticker → Rat → Prop where
  | none : Kept plan first [] [] none first
  | build {begun ended : List Rat} {ticker : Option Ticker} {due stop : Rat}
      (kept : Kept plan first begun ended ticker due) (lasts : due ≤ stop) :
      Kept plan first (begun ++ [due]) (ended ++ [stop])
        (some (plan.tickerAfter stop (ticker.map Ticker.fire)))
        ((plan.tickerAfter stop (ticker.map Ticker.fire)).fireTime stop)

namespace Kept

variable {plan : Plan} {first due : Rat} {begun ended : List Rat} {ticker : Option Ticker}

theorem length_eq (kept : Kept plan first begun ended ticker due) :
    begun.length = ended.length := by
  induction kept with
  | none => rfl
  | build _ _ inductionHypothesis => simp [inductionHypothesis]

theorem due_eq_of_nil (kept : Kept plan first begun ended ticker due) (nil : begun = []) :
    due = first := by
  cases kept with
  | none => rfl
  | build => simp at nil

theorem durations_append (kept : Kept plan first begun ended ticker due) (stop : Rat) :
    durations (begun ++ [due]) (ended ++ [stop]) = durations begun ended ++ [stop - due] := by
  rw [durations, List.zipWith_append kept.length_eq.symm]
  rfl

theorem length_durations (kept : Kept plan first begun ended ticker due) :
    (durations begun ended).length = begun.length := by
  rw [durations, List.length_zipWith, kept.length_eq, Nat.min_self]

/-- Before a build there were the builds before it, and it began when it was due. -/
theorem take (kept : Kept plan first begun ended ticker due) {n : ℕ} (inside : n < begun.length) :
    ∃ ticker due stop, Kept plan first (begun.take n) (ended.take n) ticker due ∧
      begun[n]? = some due ∧ ended[n]? = some stop ∧ due ≤ stop := by
  induction kept with
  | none => simp at inside
  | build kept lasts inductionHypothesis =>
      rename_i begun ended ticker due stop
      have length_eq := kept.length_eq
      rcases Nat.lt_succ_iff_lt_or_eq.mp (by simpa using inside) with before | last
      · obtain ⟨ticker, due, stop, taken, start, finish, lasted⟩ := inductionHypothesis before
        refine ⟨ticker, due, stop, ?_, ?_, ?_, lasted⟩
        · rwa [List.take_append_of_le_length (by omega), List.take_append_of_le_length (by omega)]
        · rwa [List.getElem?_append_left before]
        · rwa [List.getElem?_append_left (by omega)]
      · refine ⟨ticker, due, stop, ?_, ?_, ?_, lasts⟩
        · rwa [last, List.take_left, length_eq, List.take_left]
        · rw [last, List.getElem?_concat_length]
        · rw [last, length_eq, List.getElem?_concat_length]

/-- **When a build is due depends on the durations of those before it alone.** -/
theorem due_eq_of_durations {otherBegun otherEnded : List Rat} {otherTicker : Option Ticker}
    {otherDue : Rat} (kept : Kept plan first begun ended ticker due)
    (other : Kept plan first otherBegun otherEnded otherTicker otherDue)
    (same : durations begun ended = durations otherBegun otherEnded) :
    ticker = otherTicker ∧ due = otherDue := by
  induction kept generalizing otherBegun otherEnded otherTicker otherDue with
  | none =>
      cases other with
      | none => exact ⟨rfl, rfl⟩
      | build other _ =>
          rw [other.durations_append] at same
          simp [durations] at same
  | build kept _ inductionHypothesis =>
      cases other with
      | none =>
          rw [kept.durations_append] at same
          simp [durations] at same
      | build other _ =>
          rw [kept.durations_append, other.durations_append] at same
          obtain ⟨before, last⟩ := List.append_inj' same rfl
          obtain ⟨rfl, rfl⟩ := inductionHypothesis other before
          obtain rfl := sub_left_injective (List.singleton_inj.mp last)
          exact ⟨rfl, rfl⟩

/-! ## The grid -/

/-- The next build is due at a slot or late, but before the next slot comes. -/
structure Grid (plan : Plan) (origin : Rat) (begun ended : List Rat) (ticker : Ticker) (due : Rat)
    (slot : ℤ) : Prop where
  interval_eq : ticker.interval = plan.interval.value
  slot_eq : ticker.slot = origin + slot * plan.interval.value
  slot_pos : 1 ≤ slot
  begun_lt : ∀ start ∈ begun.tail, start < ticker.slot
  ended_le : ∀ stop ∈ ended, stop ≤ due
  slot_le : ticker.slot ≤ due
  due_lt : due < ticker.slot + plan.interval.value
  prompt : (∀ lasted ∈ (durations begun ended).tail, lasted < plan.interval.value) →
    slot = ended.length ∧ due = ticker.slot

/-- When the first build has ended, the next one is due one interval later. -/
theorem grid_first (positive : 0 < plan.interval.value) (stop : Rat) :
    Grid plan stop [first] [stop] (Ticker.start plan.interval.value stop)
      ((Ticker.start plan.interval.value stop).fireTime stop) 1 := by
  have slot : (Ticker.start plan.interval.value stop).slot = stop + plan.interval.value := rfl
  have fires : (Ticker.start plan.interval.value stop).fireTime stop = stop + plan.interval.value :=
    Ticker.fireTime_eq stop (by rw [slot]; linarith)
  rw [fires]
  exact {
    interval_eq := rfl
    slot_eq := by rw [slot]; push_cast; ring
    slot_pos := le_refl 1
    begun_lt := nofun
    ended_le := by simpa using positive.le
    slot_le := le_of_eq slot
    due_lt := by rw [slot]; linarith
    prompt := fun _ => ⟨rfl, slot.symm⟩ }

/-- When a later build has ended, the next one is due at a later slot. -/
theorem Grid.next {origin stop : Rat} {ticker : Ticker} {slot : ℤ}
    (grid : Grid plan origin begun ended ticker due slot) (positive : 0 < plan.interval.value)
    (nonempty : begun ≠ []) (appended : durations (begun ++ [due]) (ended ++ [stop]) =
      durations begun ended ++ [stop - due]) (some : durations begun ended ≠ []) :
    Grid plan origin (begun ++ [due]) (ended ++ [stop]) (ticker.fire.next stop)
      ((ticker.fire.next stop).fireTime stop)
      (max (slot + 1) ⌊(stop - origin) / plan.interval.value⌋) := by
  obtain ⟨interval_eq, slot_eq, slot_pos, begun_lt, ended_le, slot_le, due_lt, prompt⟩ := grid
  have moves : 0 < ticker.fire.interval := interval_eq.symm ▸ positive
  have later := Ticker.slot_add_le_slot_next moves stop
  have ahead := Ticker.lt_slot_next_add moves stop
  have next_slot := Ticker.slot_next moves (slot_eq.trans (by rw [← interval_eq]; rfl)) stop
  change ticker.slot + ticker.interval ≤ _ at later
  change stop < _ + ticker.interval at ahead
  change _ = origin + _ * ticker.interval at next_slot
  rw [interval_eq] at later ahead next_slot
  have fires := (ticker.fire.next stop).le_fireTime stop
  have since := (ticker.fire.next stop).now_le_fireTime stop
  exact {
    interval_eq
    slot_eq := by rw [next_slot, Ticker.fire, interval_eq]
    slot_pos := by omega
    begun_lt := by
      rw [List.tail_append_of_ne_nil nonempty]
      intro start member
      rcases List.mem_append.mp member with before | last
      · linarith [begun_lt start before]
      · rw [List.mem_singleton.mp last]
        linarith
    ended_le := by
      intro finish member
      rcases List.mem_append.mp member with before | last
      · linarith [ended_le finish before]
      · rw [List.mem_singleton.mp last]
        exact since
    slot_le := fires
    due_lt := Ticker.fireTime_lt stop (by linarith) ahead
    prompt := by
      rw [appended, List.tail_append_of_ne_nil some]
      intro short
      obtain ⟨count, punctual⟩ := prompt fun lasted member =>
        short lasted (List.mem_append_left _ member)
      have brief : stop - due < plan.interval.value :=
        short _ (List.mem_append_right _ (List.mem_singleton_self _))
      have early : ¬ origin + ((slot + 1 : ℤ) : Rat) * plan.interval.value ≤ stop := by
        push_cast
        linarith
      rw [slot_le_iff positive] at early
      refine ⟨?_, Ticker.fireTime_eq stop (by linarith)⟩
      rw [List.length_append, List.length_singleton]
      omega }

/-- **The builds of a keeper begin on the grid of its ticker.** -/
theorem grid (kept : Kept plan first begun ended ticker due) (positive : 0 < plan.interval.value)
    {origin : Rat} (head : ended[0]? = some origin) :
    ∃ waiting slot, ticker = some waiting ∧ Grid plan origin begun ended waiting due slot := by
  induction kept with
  | none => simp at head
  | build kept lasts inductionHypothesis =>
      rename_i begun ended ticker due stop
      cases kept with
      | none =>
          obtain rfl : stop = origin := by simpa using head
          exact ⟨_, 1, rfl, grid_first positive stop⟩
      | build earlier before =>
          have there := earlier.build before
          rw [List.getElem?_append_left (by simp)] at head
          obtain ⟨waiting, slot, same, grid⟩ := inductionHypothesis head
          cases same
          refine ⟨_, _, rfl, grid.next positive (by simp) (there.durations_append stop) ?_⟩
          rw [earlier.durations_append]
          simp

end Kept

/-- Builds have begun and ended at the given times; one may be in progress. -/
def InStep (plan : Plan) (first : Rat) (begun ended : List Rat) : Prop :=
  (∃ ticker due, Kept plan first begun ended ticker due) ∨
    ∃ earlier ticker due, Kept plan first earlier ended ticker due ∧ begun = earlier ++ [due]

namespace InStep

variable {plan : Plan} {first : Rat} {begun ended : List Rat}

theorem alternate (inStep : InStep plan first begun ended) :
    ended.length ≤ begun.length ∧ begun.length ≤ ended.length + 1 := by
  rcases inStep with ⟨_, _, kept⟩ | ⟨_, _, _, kept, rfl⟩
  · have := kept.length_eq
    omega
  · have := kept.length_eq
    simp
    omega

/-- Each build began when it was due behind the builds before it. -/
theorem exists_kept (inStep : InStep plan first begun ended) {n : ℕ} {start : Rat}
    (begins : begun[n]? = some start) :
    ∃ ticker, Kept plan first (begun.take n) (ended.take n) ticker start ∧
      ∀ stop, ended[n]? = some stop → start ≤ stop := by
  have inside := (List.getElem?_eq_some_iff.mp begins).1
  rcases inStep with ⟨_, _, kept⟩ | ⟨earlier, ticker, due, kept, rfl⟩
  · obtain ⟨ticker, due, stop, taken, start_eq, stop_eq, lasts⟩ := kept.take inside
    obtain rfl : due = start := Option.some.inj (start_eq.symm.trans begins)
    refine ⟨ticker, taken, fun finish finish_eq => ?_⟩
    obtain rfl : stop = finish := Option.some.inj (stop_eq.symm.trans finish_eq)
    exact lasts
  · have length_eq := kept.length_eq
    rcases Nat.lt_succ_iff_lt_or_eq.mp (by simpa using inside) with before | last
    · rw [List.getElem?_append_left before] at begins
      obtain ⟨ticker, due, stop, taken, start_eq, stop_eq, lasts⟩ := kept.take before
      obtain rfl : due = start := Option.some.inj (start_eq.symm.trans begins)
      refine ⟨ticker, ?_, fun finish finish_eq => ?_⟩
      · rwa [List.take_append_of_le_length (by omega)]
      · obtain rfl : stop = finish := Option.some.inj (stop_eq.symm.trans finish_eq)
        exact lasts
    · rw [last, List.getElem?_concat_length] at begins
      obtain rfl : due = start := Option.some.inj begins
      refine ⟨ticker, ?_, fun finish finish_eq => ?_⟩
      · rwa [last, List.take_left, length_eq, List.take_length]
      · rw [last, length_eq, List.getElem?_eq_none (by omega)] at finish_eq
        cases finish_eq

/-- **Two keepers whose builds last equally long begin them at the same times.** -/
theorem begun_eq {otherBegun otherEnded : List Rat} (inStep : InStep plan first begun ended)
    (other : InStep plan first otherBegun otherEnded)
    (same : ∀ (n : ℕ) (lasted otherLasted : Rat), (durations begun ended)[n]? = some lasted →
      (durations otherBegun otherEnded)[n]? = some otherLasted → lasted = otherLasted)
    {n : ℕ} {start otherStart : Rat} (begins : begun[n]? = some start)
    (otherBegins : otherBegun[n]? = some otherStart) : start = otherStart := by
  obtain ⟨_, kept, _⟩ := inStep.exists_kept begins
  obtain ⟨_, otherKept, _⟩ := other.exists_kept otherBegins
  have inside := (List.getElem?_eq_some_iff.mp begins).1
  have otherInside := (List.getElem?_eq_some_iff.mp otherBegins).1
  refine (kept.due_eq_of_durations otherKept ?_).2
  have length := kept.length_durations
  have otherLength := otherKept.length_durations
  rw [List.length_take_of_le inside.le] at length
  rw [List.length_take_of_le otherInside.le] at otherLength
  rw [durations_take] at length otherLength ⊢
  rw [durations_take]
  refine List.ext_getElem (length.trans otherLength.symm) fun m there otherThere => ?_
  rw [List.getElem_take, List.getElem_take]
  exact same m _ _ (List.getElem?_eq_getElem _) (List.getElem?_eq_getElem _)

end InStep

/-- **Builds that are in step keep the timetable.** -/
theorem timetable_of_inStep {plan : Plan} {first : Rat} {begun ended : List Rat}
    (positive : 0 < plan.interval.value) (inStep : InStep plan first begun ended) :
    Timetable plan.interval.value first begun ended := by
  -- a later build is due on the grid of the builds before it
  have gridAt : ∀ {origin : Rat} {n : ℕ} {start : Rat}, ended[0]? = some origin →
      begun[n + 1]? = some start → ∃ waiting slot,
        Kept.Grid plan origin (begun.take (n + 1)) (ended.take (n + 1)) waiting start slot := by
    intro origin n start head begins
    obtain ⟨ticker, kept, _⟩ := inStep.exists_kept begins
    have there : (ended.take (n + 1))[0]? = some origin := by
      rwa [List.getElem?_take_of_lt (Nat.succ_pos n)]
    obtain ⟨waiting, slot, _, grid⟩ := kept.grid positive there
    exact ⟨waiting, slot, grid⟩
  refine ⟨inStep.alternate, ?_, ?_, ?_, ?_, ?_, ?_⟩
  · intro start begins
    obtain ⟨ticker, kept, _⟩ := inStep.exists_kept begins
    exact kept.due_eq_of_nil List.take_zero
  · intro n start stop begins ends
    obtain ⟨_, _, lasts⟩ := inStep.exists_kept begins
    exact lasts stop ends
  · intro m n stop start before ends begins
    obtain ⟨later, rfl⟩ : ∃ later, n = later + 1 := ⟨n - 1, by omega⟩
    have nonempty := (List.getElem?_eq_some_iff.mp ends).1
    obtain ⟨origin, head⟩ : ∃ origin, ended[0]? = some origin :=
      ⟨_, List.getElem?_eq_getElem (Nat.zero_lt_of_lt nonempty)⟩
    obtain ⟨waiting, slot, grid⟩ := gridAt head begins
    refine grid.ended_le stop (List.mem_of_getElem? (i := m) ?_)
    rwa [List.getElem?_take_of_lt before]
  · intro origin n start head begins
    obtain ⟨waiting, slot, grid⟩ := gridAt head begins
    have one : (1 : Rat) ≤ slot := by exact_mod_cast grid.slot_pos
    have scaled := mul_le_mul_of_nonneg_right one positive.le
    have since := grid.slot_le
    rw [grid.slot_eq] at since
    linarith
  · rintro origin m n earlier start head before begins later slot ⟨⟨low, _⟩, ⟨_, high⟩⟩
    obtain ⟨n, rfl⟩ : ∃ earlier, n = earlier + 1 := ⟨n - 1, by omega⟩
    obtain ⟨waiting, number, grid⟩ := gridAt head later
    have since := grid.slot_le
    rw [grid.slot_eq] at since
    have left : earlier < origin + number * plan.interval.value := by
      rw [← grid.slot_eq]
      cases m with
      | zero =>
          obtain ⟨_, _, lasts⟩ := inStep.exists_kept begins
          have one : (1 : Rat) ≤ number := by exact_mod_cast grid.slot_pos
          rw [grid.slot_eq]
          linarith [lasts origin head, mul_le_mul_of_nonneg_right one positive.le]
      | succ m =>
          refine grid.begun_lt earlier (List.mem_of_getElem? (i := m) ?_)
          rwa [List.getElem?_tail, List.getElem?_take_of_lt before]
    have first : (slot : Rat) < number :=
      lt_of_mul_lt_mul_right (by linarith : (slot : Rat) * _ < number * _) positive.le
    have last : (number : Rat) < slot + 1 :=
      lt_of_mul_lt_mul_right (by linarith : (number : Rat) * _ < (slot + 1) * _) positive.le
    have above : slot < number := by exact_mod_cast first
    have below : number < slot + 1 := by exact_mod_cast last
    omega
  · intro origin n start head begins short
    obtain ⟨waiting, slot, grid⟩ := gridAt head begins
    obtain ⟨count, punctual⟩ := grid.prompt fun lasted member => by
      obtain ⟨m, there⟩ := List.mem_iff_getElem?.mp member
      rw [List.getElem?_tail, durations_take] at there
      have inside := (List.getElem?_eq_some_iff.mp there).1
      have before : m + 1 < n + 1 :=
        Nat.lt_of_lt_of_le inside (List.length_take_le _ _)
      rw [List.getElem?_take_of_lt before] at there
      exact short m (by omega) lasted there
    have length : (ended.take (n + 1)).length = n + 1 := by
      have inside := (List.getElem?_eq_some_iff.mp begins).1
      have alternate := inStep.alternate
      exact List.length_take_of_le (by omega)
    rw [punctual, grid.slot_eq, count, length]
    push_cast
    ring

end Typeahead.Schedule
