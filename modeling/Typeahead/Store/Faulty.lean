import Typeahead.Store.Ranked

/-!
# A store that fails on a plan

The plan says which executions of batches are refused, counted from one over the
whole store and with empty batches included, how many of the first pings stay
without an answer, and what becomes of reads.  A refused execution applies
nothing and empties the queue.
-/

namespace Typeahead.Store

set_option autoImplicit false

/-- When a store fails. -/
structure FaultPlan where
  /-- the numbers of the executions that are refused -/
  executions : List Int := []
  /-- what a refused execution reports -/
  refusal : String := "pipeline rejected"
  /-- how many of the first pings are not answered -/
  pings : Nat := 0
  /-- what a ping without an answer reports -/
  silence : String := "connection refused"
  /-- the failure of every read, if reads fail -/
  reads : Option ReadFault := none
  deriving Repr, Inhabited

/-- A store with a plan of its failures. -/
structure Faulty (σ : Type) where
  base : σ
  plan : FaultPlan := {}
  /-- how many batches have been executed -/
  executed : Nat := 0
  /-- how many pings have been sent -/
  pinged : Nat := 0
  deriving Repr

variable {σ β : Type} [RankedStore σ β]

/-- Executes a batch unless the plan refuses it. -/
def Faulty.execute (store : Faulty σ) (batch : β) : Except FlushFault Nat × Faulty σ × β :=
  let counted := { store with executed := store.executed + 1 }
  if store.plan.executions.contains (counted.executed : Int) then
    (.error (.refused store.plan.refusal), counted, RankedStore.discard σ batch)
  else
    let run := RankedStore.execute store.base batch
    (run.1, { counted with base := run.2.1 }, run.2.2)

/-- Sends a ping unless the plan leaves it without an answer. -/
def Faulty.ping (store : Faulty σ) : Except PingFault Unit × Faulty σ :=
  let counted := { store with pinged := store.pinged + 1 }
  if counted.pinged ≤ store.plan.pings then (.error (.refused store.plan.silence), counted)
  else
    let run := RankedStore.ping store.base
    (run.1, { counted with base := run.2 })

instance : RankedStore (Faulty σ) β where
  openBatch store := RankedStore.openBatch store.base
  add := RankedStore.add σ
  queued := RankedStore.queued σ
  discard := RankedStore.discard σ
  execute := Faulty.execute
  ping := Faulty.ping
  range store key start stop :=
    match store.plan.reads with
    | some fault => .error fault
    | none => RankedStore.range store.base key start stop

end Typeahead.Store
