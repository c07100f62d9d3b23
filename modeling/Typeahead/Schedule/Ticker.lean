/-!
# Ticks at a fixed rate

A ticker has a slot at every multiple of its interval.  Whoever asks for a tick
waits for the next slot.  Whoever asks late gets one tick at once, for the last
slot that has come; the slots before it are dropped, so that the ticks stay on
their grid.
-/

namespace Typeahead.Schedule

set_option autoImplicit false

/-- A ticker. -/
structure Ticker where
  interval : Rat
  /-- the slot of the next tick -/
  slot : Rat
  /-- how many ticks have fired -/
  ticks : Nat := 0
  deriving DecidableEq, Repr, Inhabited

/-- Moves a slot on by whole intervals, as long as the slot after it has come and at most the
given number of times. -/
def catchUp (interval now : Rat) : Nat → Rat → Rat
  | 0, slot => slot
  | steps + 1, slot =>
      if slot + interval ≤ now then catchUp interval now steps (slot + interval) else slot

/-- How many whole intervals lie between a slot and a later time. -/
def intervalsBetween (interval slot now : Rat) : Nat :=
  ((now - slot) / interval).floor.toNat

/-- The later of two times. -/
def later (first second : Rat) : Rat :=
  if first ≤ second then second else first

namespace Ticker

/-- A ticker whose first slot is one interval away. -/
def start (interval now : Rat) : Ticker :=
  { interval, slot := now + interval }

/-- When the tick fires that is asked for now. -/
def fireTime (ticker : Ticker) (now : Rat) : Rat :=
  later now ticker.slot

/-- The tick fires. -/
def fire (ticker : Ticker) : Ticker :=
  { ticker with ticks := ticker.ticks + 1 }

/-- The next tick is asked for. -/
def next (ticker : Ticker) (now : Rat) : Ticker :=
  let slot := ticker.slot + ticker.interval
  { ticker with
    slot := catchUp ticker.interval now (intervalsBetween ticker.interval slot now) slot }

/-- The numbers and times of the ticks for a consumer that is busy for the given times after
them. -/
def run (ticker : Ticker) (now : Rat) : List Rat → List (Nat × Rat)
  | [] => []
  | busy :: rest =>
      let time := ticker.fireTime now
      let fired := ticker.fire
      (fired.ticks, time) :: (fired.next (time + busy)).run (time + busy) rest

end Ticker

end Typeahead.Schedule
