import Typeahead.Decimal.Shortest

/-!
# Additions to ranked sets

A store keeps sets under keys.  The members of a set are ranked by their scores,
and members of one score by their texts.  A score is given as an integer or as a
binary number; both are compared by their values, but each is written in its own
way.
-/

namespace Typeahead.Store

open Typeahead.Decimal

set_option autoImplicit false

/-- The score of a member. -/
inductive Score where
  | whole (value : Int)
  | real (value : Binary64)
  deriving DecidableEq, Repr, Inhabited

namespace Score

/-- The score of every name in the index. -/
def zero : Score := .whole 0

/-- The score of a member that is added without one. -/
def unstated : Score := .real Binary64.zero

/-- The value that ranks a member. -/
def value : Score → Rat
  | .whole value => value
  | .real value => value.value

/-- The value that is left when the score is sent as a binary number. -/
def sentValue : Score → Rat
  | .whole value => (Binary64.ofInt value).value
  | .real value => value.value

/-- A score as it is written. -/
def text : Score → String
  | .whole value => toString value
  | .real value => value.text

end Score

/-- The addition of a member to the set of a key. -/
structure Addition where
  key : String
  member : String
  score : Score
  deriving DecidableEq, Repr, Inhabited

end Typeahead.Store
