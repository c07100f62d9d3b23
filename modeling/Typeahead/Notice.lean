/-!
# Notices

What the program reports about its own work: a level and a line of text.
-/

namespace Typeahead

set_option autoImplicit false

/-- How serious a notice is. -/
inductive Level where
  | info
  | warning
  | error
  deriving DecidableEq, Repr, Inhabited

/-- The name of a level. -/
def Level.name : Level → String
  | .info => "INFO"
  | .warning => "WARNING"
  | .error => "ERROR"

/-- A line of the log. -/
structure Notice where
  level : Level
  message : String
  deriving DecidableEq, Repr, Inhabited

/-- A notice with its level in front. -/
def Notice.text (notice : Notice) : String :=
  notice.level.name ++ " " ++ notice.message

end Typeahead
