import Typeahead.Decimal.Binary64

/-!
# Raw values of settings

Where a setting is given, its value has one of a few shapes: a text in the
environment, anything in a file or in a call.  What no setting takes, such as a
list, is not told apart.
-/

namespace Typeahead.Config

open Typeahead.Decimal

set_option autoImplicit false

/-- A value before it is read as a setting. -/
inductive Raw where
  | null
  | truth (value : Bool)
  | integer (value : Int)
  | real (value : Binary64)
  | text (value : String)
  | bytes (value : List UInt8)
  /-- a list, a mapping or a time -/
  | other
  deriving DecidableEq, Repr, Inhabited

/-- A key as it is given, with its value. -/
abbrev Assignment : Type := String × Raw

end Typeahead.Config
