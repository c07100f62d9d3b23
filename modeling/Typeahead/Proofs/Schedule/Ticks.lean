import Mathlib.Data.Rat.Floor
import Mathlib.Tactic.Linarith
import Typeahead.Schedule.Ticker

/-!
# Ticks stay on their grid

The slots of a ticker lie on a grid of whole intervals.  When its next tick is asked
for, the ticker moves on by one interval at least, and up to the last slot that has
come (`slot_next`); so the tick fires at its slot or later, but before the slot after it
(`le_fireTime`, `fireTime_lt`).  Whatever the times are at which ticks are asked for, each
tick has a slot of its own, and the catching up always ends (`run_keeps_to_grid`).
-/

namespace Typeahead.Schedule

set_option autoImplicit false

/-! ## Catching up -/

section Rounding

variable {interval : Rat} (positive : 0 < interval)
include positive

/-- A slot on the grid has come when as many whole intervals have gone by. -/
theorem slot_le_iff (origin now : Rat) (slot : ℤ) :
    origin + slot * interval ≤ now ↔ slot ≤ ⌊(now - origin) / interval⌋ := by
  rw [Int.le_floor, le_div_iff₀ positive]
  constructor
  · intro come
    linarith
  · intro come
    linarith

/-- Catching up leads to the last slot that has come, unless it is given up before. -/
theorem catchUp_eq (origin now : Rat) (steps : ℕ) (slot : ℤ) :
    catchUp interval now steps (origin + slot * interval) =
      origin + (max slot (min (slot + steps) ⌊(now - origin) / interval⌋) : ℤ) * interval := by
  induction steps generalizing slot with
  | zero =>
      have stays : max slot (min (slot + (0 : ℕ)) ⌊(now - origin) / interval⌋) = slot := by omega
      rw [stays, catchUp]
  | succ steps inductionHypothesis =>
      have moved : origin + slot * interval + interval = origin + (slot + 1 : ℤ) * interval := by
        push_cast
        ring
      rw [catchUp, moved, inductionHypothesis]
      by_cases come : slot + 1 ≤ ⌊(now - origin) / interval⌋
      · rw [if_pos ((slot_le_iff positive origin now _).mpr come)]
        congr 3
        push_cast
        omega
      · rw [if_neg (mt (slot_le_iff positive origin now _).mp come)]
        congr 3
        push_cast
        omega

/-- As many intervals are caught up as have gone by. -/
theorem intervalsBetween_eq (origin now : Rat) (slot : ℤ) :
    intervalsBetween interval (origin + slot * interval) now =
      (⌊(now - origin) / interval⌋ - slot).toNat := by
  have whole : (now - (origin + slot * interval)) / interval =
      (now - origin) / interval - slot := by
    field_simp
    ring
  rw [intervalsBetween, whole]
  exact congrArg Int.toNat (Int.floor_sub_intCast ((now - origin) / interval) slot)

end Rounding

/-! ## Catching up as a loop -/

/-- The loop that moves a slot on, as long as the slot after it has come, ends at a slot. -/
inductive CatchesUp (interval now : Rat) : Rat → Rat → Prop where
  | stays {slot : Rat} (ahead : ¬ slot + interval ≤ now) : CatchesUp interval now slot slot
  | moves {slot last : Rat} (come : slot + interval ≤ now)
      (rest : CatchesUp interval now (slot + interval) last) : CatchesUp interval now slot last

/-- With enough steps, the loop is run to its end. -/
theorem catchesUp_catchUp {interval now : Rat} (steps : ℕ) {slot : Rat}
    (enough : now < slot + (steps + 1 : ℕ) * interval) :
    CatchesUp interval now slot (catchUp interval now steps slot) := by
  induction steps generalizing slot with
  | zero =>
      refine .stays (not_le.mpr ?_)
      simpa using enough
  | succ steps inductionHypothesis =>
      rw [catchUp]
      split
      next come =>
        refine .moves come (inductionHypothesis ?_)
        push_cast at enough ⊢
        linarith
      next ahead => exact .stays ahead

/-- **The loop ends**, and the ticker allows as many steps as it takes. -/
theorem catchesUp_intervalsBetween {interval : Rat} (positive : 0 < interval) (slot now : Rat) :
    CatchesUp interval now slot
      (catchUp interval now (intervalsBetween interval slot now) slot) := by
  refine catchesUp_catchUp _ ?_
  have whole : (now - slot) / interval < (⌊(now - slot) / interval⌋ + 1 : ℤ) := by
    push_cast
    exact Int.lt_floor_add_one _
  have allowed : ⌊(now - slot) / interval⌋ + 1 ≤
      ((intervalsBetween interval slot now + 1 : ℕ) : ℤ) := by
    push_cast
    exact Int.add_le_add_right (Int.self_le_toNat _) 1
  have reach : (now - slot) / interval < (intervalsBetween interval slot now + 1 : ℕ) :=
    lt_of_lt_of_le whole (mod_cast allowed)
  rw [div_lt_iff₀ positive] at reach
  linarith

namespace Ticker

variable {ticker : Ticker} {origin : Rat} {slot : ℤ}

/-- **The next slot is one interval away or the last one that has come.** -/
theorem slot_next (positive : 0 < ticker.interval)
    (grid : ticker.slot = origin + slot * ticker.interval) (now : Rat) :
    (ticker.next now).slot =
      origin + (max (slot + 1) ⌊(now - origin) / ticker.interval⌋ : ℤ) * ticker.interval := by
  have moved : ticker.slot + ticker.interval = origin + (slot + 1 : ℤ) * ticker.interval := by
    rw [grid]
    push_cast
    ring
  rw [next]
  simp only [moved]
  rw [intervalsBetween_eq positive, catchUp_eq positive]
  congr 3
  omega

/-- The next slot is one interval away at least. -/
theorem slot_add_le_slot_next (positive : 0 < ticker.interval) (now : Rat) :
    ticker.slot + ticker.interval ≤ (ticker.next now).slot := by
  have moved := @slot_next ticker ticker.slot 0 positive (by simp) now
  have one : (1 : Rat) ≤ (max (0 + 1) ⌊(now - ticker.slot) / ticker.interval⌋ : ℤ) := by
    exact_mod_cast le_max_left _ _
  rw [moved]
  linarith [mul_le_mul_of_nonneg_right one positive.le]

/-- The slot after the next one has not come. -/
theorem lt_slot_next_add (positive : 0 < ticker.interval) (now : Rat) :
    now < (ticker.next now).slot + ticker.interval := by
  have moved := @slot_next ticker ticker.slot 0 positive (by simp) now
  have ahead : ¬ ticker.slot + ((max (0 + 1) ⌊(now - ticker.slot) / ticker.interval⌋ + 1 : ℤ) : Rat)
      * ticker.interval ≤ now := by
    rw [slot_le_iff positive]
    omega
  push_cast at ahead moved
  rw [moved]
  linarith

theorem le_fireTime (ticker : Ticker) (now : Rat) : ticker.slot ≤ ticker.fireTime now := by
  rw [fireTime, later]
  split
  next => exact le_refl _
  next late => exact le_of_lt (not_le.mp late)

theorem now_le_fireTime (ticker : Ticker) (now : Rat) : now ≤ ticker.fireTime now := by
  rw [fireTime, later]
  split
  next ahead => exact ahead
  next => exact le_refl _

theorem fireTime_lt (now : Rat) {bound : Rat} (before : ticker.slot < bound) (early : now < bound) :
    ticker.fireTime now < bound := by
  rw [fireTime, later]
  split
  next => exact before
  next => exact early

theorem fireTime_eq (now : Rat) (ahead : now ≤ ticker.slot) :
    ticker.fireTime now = ticker.slot := by
  rw [fireTime, later, if_pos ahead]

theorem fireTime_eq_max (ticker : Ticker) (now : Rat) :
    ticker.fireTime now = max now ticker.slot := by
  rw [fireTime, later, max_def]

/-- The loop for the next tick ends at its slot. -/
theorem catchesUp_next (positive : 0 < ticker.interval) (now : Rat) :
    CatchesUp ticker.interval now (ticker.slot + ticker.interval) (ticker.next now).slot :=
  catchesUp_intervalsBetween positive _ now

end Ticker

/-! ## Whole runs -/

section Requests

variable (interval : Rat) (asked : ℕ → Rat)

/-- The slots of the ticks that are asked for at some times, counted in intervals from the first
of these times: one further than the slot before, or the last one that has come. -/
def slotNumber : ℕ → ℤ
  | 0 => 1
  | n + 1 => max (slotNumber n + 1) ⌊(asked (n + 1) - asked 0) / interval⌋

/-- The place of a slot in time. -/
def slotTime (n : ℕ) : Rat :=
  asked 0 + slotNumber interval asked n * interval

/-- When a tick fires: at its slot, or at once for whoever asks later. -/
def tickTime (n : ℕ) : Rat :=
  max (asked n) (slotTime interval asked n)

/-- For how long the consumer is busy after a tick. -/
def pause (n : ℕ) : Rat :=
  asked (n + 1) - tickTime interval asked n

/-- The ticker as it waits for a tick. -/
def tickerAt (n : ℕ) : Ticker :=
  { interval, slot := slotTime interval asked n, ticks := n }

variable {interval}

theorem next_tickerAt (positive : 0 < interval) (n : ℕ) :
    (tickerAt interval asked n).fire.next (asked (n + 1)) = tickerAt interval asked (n + 1) := by
  have moved := @Ticker.slot_next (tickerAt interval asked n).fire (asked 0)
    (slotNumber interval asked n) positive rfl (asked (n + 1))
  rw [Ticker.next] at moved ⊢
  exact congrArg (fun slot => Ticker.mk interval slot (n + 1)) moved

/-- One tick after another. -/
theorem run_tickerAt (positive : 0 < interval) (count first : ℕ) :
    (tickerAt interval asked first).run (asked first)
        ((List.range' first count).map (pause interval asked)) =
      (List.range' first count).map fun n => (n + 1, tickTime interval asked n) := by
  induction count generalizing first with
  | zero => rfl
  | succ count inductionHypothesis =>
      have fires : (tickerAt interval asked first).fireTime (asked first) =
          tickTime interval asked first := Ticker.fireTime_eq_max _ _
      have asks : tickTime interval asked first + pause interval asked first =
          asked (first + 1) := add_sub_cancel _ _
      rw [List.range'_succ, List.map_cons, List.map_cons, Ticker.run]
      simp only [fires, asks, next_tickerAt asked positive]
      exact congrArg _ (inductionHypothesis (first + 1))

theorem slotNumber_lt_succ (n : ℕ) :
    slotNumber interval asked n < slotNumber interval asked (n + 1) :=
  lt_of_lt_of_le (Int.lt_add_one_iff.mpr le_rfl) (le_max_left _ _)

/-- Whoever asks when the next slot has come gets the last slot that has come. -/
theorem slotTime_of_late (positive : 0 < interval) {n : ℕ}
    (late : slotTime interval asked n + interval ≤ asked (n + 1)) :
    slotTime interval asked (n + 1) ≤ asked (n + 1) ∧
      asked (n + 1) < slotTime interval asked (n + 1) + interval := by
  have moved : slotTime interval asked n + interval =
      asked 0 + (slotNumber interval asked n + 1 : ℤ) * interval := by
    rw [slotTime]
    push_cast
    ring
  have last : slotNumber interval asked (n + 1) = ⌊(asked (n + 1) - asked 0) / interval⌋ :=
    max_eq_right ((slot_le_iff positive _ _ _).mp (moved ▸ late))
  have following : ¬ asked 0 + ((slotNumber interval asked (n + 1) + 1 : ℤ) : Rat) * interval ≤
      asked (n + 1) := by
    rw [slot_le_iff positive, last]
    omega
  constructor
  · exact (slot_le_iff positive _ _ _).mpr last.le
  · push_cast at following
    rw [slotTime]
    linarith

/-- **The ticks keep to their grid.**  For ticks that are asked for at any times: tick after tick
has the next number and fires at its slot, or when it is asked for if that is later; the catching
up between two ticks ends, at the slot of the second one; no two ticks share a slot; and whoever
asks when further slots have come gets one tick at once, for the last of them. -/
theorem run_keeps_to_grid (positive : 0 < interval) :
    (∀ count, (Ticker.start interval (asked 0)).run (asked 0)
        ((List.range count).map (pause interval asked)) =
      (List.range count).map fun n => (n + 1, tickTime interval asked n)) ∧
    (∀ n, CatchesUp interval (asked (n + 1)) (slotTime interval asked n + interval)
      (slotTime interval asked (n + 1))) ∧
    (∀ {first second}, first < second →
      slotNumber interval asked first < slotNumber interval asked second) ∧
    ∀ n, slotTime interval asked n + interval ≤ asked (n + 1) →
      tickTime interval asked (n + 1) = asked (n + 1) ∧
        slotTime interval asked (n + 1) ≤ asked (n + 1) ∧
        asked (n + 1) < slotTime interval asked (n + 1) + interval := by
  have ascending : StrictMono (slotNumber interval asked) :=
    strictMono_nat_of_lt_succ (slotNumber_lt_succ asked)
  refine ⟨fun count => ?_, fun n => ?_, fun before => ascending before, fun n late => ?_⟩
  · have started : Ticker.start interval (asked 0) = tickerAt interval asked 0 := by
      simp [Ticker.start, tickerAt, slotTime, slotNumber]
    rw [started, List.range_eq_range']
    exact run_tickerAt asked positive count 0
  · have ends := @Ticker.catchesUp_next (tickerAt interval asked n).fire positive (asked (n + 1))
    rwa [next_tickerAt asked positive] at ends
  · have behind := slotTime_of_late asked positive late
    exact ⟨max_eq_left behind.1, behind⟩

end Requests

/-- A consumer that comes back on a slot, then behind two slots, then in time. -/
def busyConsumer (n : ℕ) : Rat := [0, 10, 45, 49].getD n 50

/-- The third tick fires at once, for the slot at 40; the slot at 30 is dropped. -/
theorem run_keeps_to_grid_of_busyConsumer :
    (0 : Rat) < 10 ∧ (Ticker.start 10 0).run 0 [0, 25, 4, 0] =
      [(1, 10), (2, 20), (3, 45), (4, 50)] ∧ busyConsumer 2 < slotTime 10 busyConsumer 2 + 10 := by
  have positive : (0 : Rat) < 10 := by norm_num
  obtain ⟨runs, -, -, late⟩ := run_keeps_to_grid busyConsumer positive
  have pauses : (List.range 4).map (pause 10 busyConsumer) = [0, 25, 4, 0] := by decide +kernel
  have ticks : ((List.range 4).map fun n => (n + 1, tickTime 10 busyConsumer n)) =
      [(1, 10), (2, 20), (3, 45), (4, 50)] := by decide +kernel
  have come : slotTime 10 busyConsumer 1 + 10 ≤ busyConsumer 2 := by decide +kernel
  have run := runs 4
  rw [pauses, ticks] at run
  exact ⟨positive, run, (late 1 come).2.2⟩

end Typeahead.Schedule
