import Typeahead.Text.Quoted

/-!
# Problems with settings

A value can have the wrong shape, its text can fail to spell what is wanted, or
it can lie outside its bounds.  A key can be unknown.
-/

namespace Typeahead.Config

open Typeahead.Text

set_option autoImplicit false

/-- What is wrong with one setting. -/
inductive Problem where
  | notText
  /-- the bytes spell no text -/
  | badBytes
  | notInteger
  | noIntegerInText
  | integerTooLarge
  | notWhole
  | notFinite
  | notReal
  | noRealInText
  | notTruth
  | noTruthInText
  | notAmong (choices : List String)
  | notAbove (bound : Int)
  | below (bound : Int)
  | unknownKey
  deriving DecidableEq, Repr, Inhabited

/-- Choices as a sentence lists them. -/
def listChoices : List String → String
  | [] => ""
  | [choice] => quoted choice
  | [first, last] => quoted first ++ " or " ++ quoted last
  | choice :: choices => quoted choice ++ ", " ++ listChoices choices

/-- What is said about a problem. -/
def Problem.message : Problem → String
  | .notText => "Input should be a valid string"
  | .badBytes =>
      "Input should be a valid string, unable to parse raw data as a unicode string"
  | .notInteger => "Input should be a valid integer"
  | .noIntegerInText => "Input should be a valid integer, unable to parse string as an integer"
  | .integerTooLarge => "Unable to parse input string as an integer, exceeded maximum size"
  | .notWhole => "Input should be a valid integer, got a number with a fractional part"
  | .notFinite => "Input should be a finite number"
  | .notReal => "Input should be a valid number"
  | .noRealInText => "Input should be a valid number, unable to parse string as a number"
  | .notTruth => "Input should be a valid boolean"
  | .noTruthInText => "Input should be a valid boolean, unable to interpret input"
  | .notAmong choices => "Input should be " ++ listChoices choices
  | .notAbove bound => "Input should be greater than " ++ toString bound
  | .below bound => "Input should be greater than or equal to " ++ toString bound
  | .unknownKey => "Extra inputs are not permitted"

/-- A problem with the key that it is about. -/
structure Complaint where
  key : String
  problem : Problem
  deriving DecidableEq, Repr, Inhabited

/-- What is said about a setting that has a problem. -/
def Complaint.message (complaint : Complaint) : String :=
  complaint.key ++ ": " ++ complaint.problem.message

end Typeahead.Config
