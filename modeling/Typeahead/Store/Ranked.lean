import Typeahead.Store.Addition
import Typeahead.Text.Quoted

/-!
# What a store of ranked sets offers

Additions are queued in batches, and the queue of a batch is applied at once
when the batch is executed.  Members are read by their ranks.  A store answers a
ping when it can be used.  Each of the three can fail, and each failure has its
causes.
-/

namespace Typeahead.Store

open Typeahead.Text

set_option autoImplicit false

/-- What a server says about a key that holds another kind of value. -/
def wrongType : String :=
  "WRONGTYPE Operation against a key holding the wrong kind of value"

/-- Why the queue of a batch was not applied. -/
inductive FlushFault where
  /-- the store refused the batch, for a reason of its own -/
  | refused (reason : String)
  /-- the connection to the server failed -/
  | unreachable (reason : String)
  /-- an addition, counted from one, met a key that holds no set -/
  | wrongKind (number : Nat) (addition : Addition)
  deriving DecidableEq, Repr, Inhabited

/-- What is said about a flush that failed. -/
def FlushFault.message : FlushFault → String
  | .refused reason => reason
  | .unreachable reason => "There was an error executing the insertion pipeline: " ++ reason
  | .wrongKind number addition =>
      "There was an error executing the insertion pipeline: Command # " ++ toString number ++
        " (ZADD " ++ addition.key ++ " " ++ addition.score.text ++ " " ++ addition.member ++
        ") of pipeline caused error: ('" ++ wrongType ++ "',)"

/-- Why a store did not answer a ping. -/
inductive PingFault where
  | refused (reason : String)
  | unreachable (reason : String)
  deriving DecidableEq, Repr, Inhabited

/-- What is said about a ping without an answer. -/
def PingFault.message : PingFault → String
  | .refused reason => reason
  | .unreachable reason => "Redis did not answer PING: " ++ reason

/-- Why members could not be read. -/
inductive ReadFault where
  | refused (reason : String)
  | unreachable (key reason : String)
  | outOfRange (key : String)
  | wrongKind (key : String)
  /-- a failure that no reader of the store expects -/
  | crashed (reason : String)
  deriving DecidableEq, Repr, Inhabited

/-- What is said about members that could not be read. -/
def ReadFault.message : ReadFault → String
  | .refused reason => reason
  | .unreachable key reason => "ZRANGE " ++ quoted key ++ " failed: " ++ reason
  | .outOfRange key =>
      "ZRANGE " ++ quoted key ++ " failed: value is not an integer or out of range"
  | .wrongKind key => "ZRANGE " ++ quoted key ++ " failed: " ++ wrongType
  | .crashed reason => reason

/-- A store `σ` of ranked sets with batches `β`. -/
class RankedStore (σ : Type) (β : outParam Type) where
  /-- a batch with nothing in it -/
  openBatch : σ → β
  /-- queues an addition -/
  add : β → Addition → β
  /-- how many additions are queued -/
  queued : β → Nat
  /-- empties the queue of a batch -/
  discard : β → β
  /-- applies the queue of a batch and empties it; the answer counts the additions -/
  execute : σ → β → Except FlushFault Nat × σ × β
  /-- asks whether the store can be used -/
  ping : σ → Except PingFault Unit × σ
  /-- the members of a key from one rank to another, both included -/
  range : σ → String → Int → Int → Except ReadFault (List String)

end Typeahead.Store
