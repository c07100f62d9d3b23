import Std.Data.ExtTreeMap
import Typeahead.Store.Ranked
import Typeahead.Text.Utf8

/-!
# A store on a server

The server keeps each set as a list in the order of the ranks, members of one
score in the order of their bytes.  A key can also hold a text that another
client has put there.  A batch is sent as one transaction: the server runs every
command of it, and a command that meets a key of the wrong kind fails without
undoing the others.  While the server cannot be reached nothing is applied.
-/

namespace Typeahead.Store

open Typeahead.Text

set_option autoImplicit false

/-- The members of a set in the order of their ranks, with the values of their scores. -/
abbrev RankList : Type := List (String × Rat)

/-- The order of the server: by score, then by bytes. -/
def precedesOnServer (first second : String × Rat) : Bool :=
  first.2 < second.2 ||
    (first.2 == second.2 && decide (encode first.1.toList < encode second.1.toList))

/-- Puts a member in its place. -/
def placeMember (entry : String × Rat) : RankList → RankList
  | [] => [entry]
  | other :: others =>
      if precedesOnServer other entry then other :: placeMember entry others
      else entry :: other :: others

/-- Adds a member or moves it to the place of its new score. -/
def rankMember (entry : String × Rat) (members : RankList) : RankList :=
  placeMember entry (members.filter fun other => other.1 != entry.1)

/-- What a key of the server holds. -/
inductive Holding where
  | set (members : RankList)
  | text (value : String)
  deriving Repr, Inhabited

/-- A server as its clients see it. -/
structure ServerStore where
  holdings : Std.ExtTreeMap String Holding
  /-- why the server cannot be reached, if it cannot -/
  outage : Option String

namespace ServerStore

/-- A server without keys. -/
def empty : ServerStore := ⟨∅, none⟩

instance : Inhabited ServerStore := ⟨empty⟩

/-- Runs one command; it fails on a key that holds a text. -/
def insert? (holdings : Std.ExtTreeMap String Holding) (addition : Addition) :
    Option (Std.ExtTreeMap String Holding) :=
  let entry := (addition.member, addition.score.sentValue)
  match holdings[addition.key]? with
  | none => some (holdings.insert addition.key (.set [entry]))
  | some (.set members) => some (holdings.insert addition.key (.set (rankMember entry members)))
  | some (.text _) => none

/-- Runs the commands of a transaction, numbered from the given number on.  All of them are run;
the first failure is reported. -/
def runAll (holdings : Std.ExtTreeMap String Holding) (number : Nat) :
    List Addition → Option FlushFault × Std.ExtTreeMap String Holding
  | [] => (none, holdings)
  | addition :: additions =>
      match insert? holdings addition with
      | some changed => runAll changed (number + 1) additions
      | none =>
          let others := runAll holdings (number + 1) additions
          (some (.wrongKind number addition), others.2)

/-- The place in a list that the server means by a rank; it may lie outside the list. -/
def resolveRank (length : Nat) (rank : Int) : Int :=
  if rank < 0 then rank + length else rank

/-- The items from one rank to another, both included. -/
def rankRange {α : Type} (items : List α) (start stop : Int) : List α :=
  let first := max 0 (resolveRank items.length start)
  let last := min ((items.length : Int) - 1) (resolveRank items.length stop)
  if last < first then [] else (items.drop first.toNat).take (last - first + 1).toNat

/-- A rank that fits into 64 bits. -/
def isRank (rank : Int) : Bool :=
  decide (-0x8000000000000000 ≤ rank ∧ rank < 0x8000000000000000)

/-- The members of a key by rank. -/
def range (server : ServerStore) (key : String) (start stop : Int) :
    Except ReadFault (List String) :=
  match server.outage with
  | some reason => .error (.unreachable key reason)
  | none =>
      if isRank start && isRank stop then
        match server.holdings[key]? with
        | none => .ok []
        | some (.set members) => .ok ((rankRange members start stop).map Prod.fst)
        | some (.text _) => .error (.wrongKind key)
      else .error (.outOfRange key)

/-- Another client puts a text under a key. -/
def setText (server : ServerStore) (key value : String) : ServerStore :=
  { server with holdings := server.holdings.insert key (.text value) }

end ServerStore

/-- A batch that is sent to a server: the commands, and how many additions the client has counted
since the batch was last sent or emptied. -/
structure ServerBatch where
  commands : List Addition := []
  count : Nat := 0
  deriving DecidableEq, Repr, Inhabited

/-- Sends a batch.  An empty one does not touch the server. -/
def ServerStore.send (server : ServerStore) (batch : ServerBatch) :
    Except FlushFault Nat × ServerStore × ServerBatch :=
  if batch.count = 0 then (.ok 0, server, batch)
  else
    match server.outage with
    | some reason => (.error (.unreachable reason), server, {})
    | none =>
        let run := ServerStore.runAll server.holdings 1 batch.commands
        (match run.1 with
          | some fault => .error fault
          | none => .ok batch.count,
          { server with holdings := run.2 }, {})

instance : RankedStore ServerStore ServerBatch where
  openBatch _ := {}
  add batch addition := ⟨batch.commands ++ [addition], batch.count + 1⟩
  queued batch := batch.commands.length
  discard _ := {}
  execute := ServerStore.send
  ping server :=
    (match server.outage with
      | some reason => .error (.unreachable reason)
      | none => .ok (), server)
  range := ServerStore.range

end Typeahead.Store
