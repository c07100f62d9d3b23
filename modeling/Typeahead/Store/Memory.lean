import Std.Data.ExtTreeMap
import Typeahead.Store.Ranked

/-!
# A store in memory

The sets are kept in a map from keys to members and scores.  A read ranks the
members and cuts a slice out of them.  A negative rank counts from the end; what
still lies before the beginning is moved to the beginning.
-/

namespace Typeahead.Store

set_option autoImplicit false

/-- The members of a set with the values of their scores. -/
abbrev Members : Type := Std.ExtTreeMap String Rat

/-- A store that lives in the memory of the program. -/
structure MemoryStore where
  sets : Std.ExtTreeMap String Members

namespace MemoryStore

/-- A store without keys. -/
def empty : MemoryStore := ⟨∅⟩

instance : Inhabited MemoryStore := ⟨empty⟩

/-- The score of a member under a key. -/
def score? (store : MemoryStore) (key member : String) : Option Rat :=
  (store.sets[key]?).bind fun members => members[member]?

/-- Adds a member or gives it another score. -/
def insert (store : MemoryStore) (addition : Addition) : MemoryStore :=
  ⟨store.sets.alter addition.key fun members =>
    some ((members.getD ∅).insert addition.member addition.score.value)⟩

/-- Applies additions in order. -/
def insertAll (store : MemoryStore) (additions : List Addition) : MemoryStore :=
  additions.foldl insert store

end MemoryStore

/-- Whether a member with its score may stand before another: the smaller score first, members of
one score in the order of their characters. -/
def ranksBefore (first second : String × Rat) : Bool :=
  first.2 < second.2 || (first.2 == second.2 && decide (first.1 ≤ second.1))

/-- The members of a set in the order of their ranks. -/
def ranked (members : Members) : List String :=
  (members.toList.mergeSort ranksBefore).map Prod.fst

/-- A place in a list of the given length: a negative place counts from the end, and none lies
outside the list. -/
def clampPlace (length : Nat) (place : Int) : Nat :=
  min length (if place < 0 then place + length else place).toNat

/-- The items from one rank to another, both included.  The rank `-1` is the last one; another
negative rank is moved by one before it is counted from the end. -/
def rankSlice {α : Type} (items : List α) (start stop : Int) : List α :=
  let first := clampPlace items.length start
  let last := if stop = -1 then items.length else clampPlace items.length (stop + 1)
  (items.take last).drop first

namespace MemoryStore

/-- The members of a key by rank. -/
def range (store : MemoryStore) (key : String) (start stop : Int) : List String :=
  match store.sets[key]? with
  | none => []
  | some members => rankSlice (ranked members) start stop

/-- All keys with their ranked members. -/
def dump (store : MemoryStore) : List (String × List String) :=
  store.sets.toList.map fun set => (set.1, ranked set.2)

end MemoryStore

/-- A batch is the list of its additions. -/
structure MemoryBatch where
  additions : List Addition := []
  deriving DecidableEq, Repr, Inhabited

instance : RankedStore MemoryStore MemoryBatch where
  openBatch _ := {}
  add batch addition := ⟨batch.additions ++ [addition]⟩
  queued batch := batch.additions.length
  discard _ := {}
  execute store batch := (.ok batch.additions.length, store.insertAll batch.additions, {})
  ping store := (.ok (), store)
  range store key start stop := .ok (store.range key start stop)

end Typeahead.Store
