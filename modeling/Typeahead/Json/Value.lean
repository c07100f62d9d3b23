import Typeahead.Decimal.Shortest

/-!
# JSON values

A number that is written without a point and without an exponent is an integer
of any size, every other number is a binary one.  An object keeps its members as
they are written, so a name can stand several times; the last one counts.
-/

namespace Typeahead.Json

open Typeahead.Decimal

set_option autoImplicit false

/-- A JSON value. -/
inductive Value where
  | null
  | bool (value : Bool)
  | integer (value : Int)
  | real (value : Binary64)
  | string (text : String)
  | array (items : List Value)
  | object (members : List (String × Value))
  deriving Repr, Inhabited

/-- What the last member of a name holds. -/
def lastMember? {α : Type} (name : String) (members : List (String × α)) : Option α :=
  (members.reverse.find? fun member => member.1 == name).map Prod.snd

/-- Sets the member of a name: where the name stands already, or at the end. -/
def setMember {α : Type} (name : String) (value : α) : List (String × α) → List (String × α)
  | [] => [(name, value)]
  | member :: members =>
      if member.1 = name then (name, value) :: members
      else member :: setMember name value members

/-- The members with each name once, in the place where it came first and with the value that came
last. -/
def distinctMembers {α : Type} (members : List (String × α)) : List (String × α) :=
  members.foldl (fun kept member => setMember member.1 member.2 kept) []

end Typeahead.Json
