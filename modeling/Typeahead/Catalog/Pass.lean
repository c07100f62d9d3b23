import Typeahead.Catalog.Feed
import Typeahead.Catalog.Row

/-!
# Passes over a catalog

The first line of a feed opens the catalog and is skipped.  Every other line
brings a name, or nothing, or is malformed; a malformed line is counted and
reported, and the pass goes on.  Each pass counts from zero.
-/

namespace Typeahead.Catalog

set_option autoImplicit false

/-- What a pass remembers between two lines. -/
structure PassState where
  headerSkipped : Bool := false
  malformed : Nat := 0
  deriving DecidableEq, Repr, Inhabited

/-- What a line brings. -/
structure LineOutcome where
  name : Option String := none
  notices : List Notice := []
  deriving DecidableEq, Repr, Inhabited

/-- Takes one line. -/
def PassState.line (state : PassState) (text : String) : PassState × LineOutcome :=
  if !state.headerSkipped then ({ state with headerSkipped := true }, {})
  else
    match parseRow text with
    | .ok name => (state, { name })
    | .error row =>
        ({ state with malformed := state.malformed + 1 }, { notices := [row.notice] })

/-- What a pass has delivered. -/
structure Delivery where
  names : List String := []
  malformed : Nat := 0
  notices : List Notice := []
  failure : Option SourceFault := none
  deriving DecidableEq, Repr, Inhabited

/-- Delivers names from signals.  A pass that has delivered as many names as are wanted is broken
off, and neither the lines that follow nor a failure at the end are seen. -/
def deliver (failure : Option SourceFault) (wanted : Option Nat) (state : PassState) :
    List Signal → Delivery
  | [] => { malformed := state.malformed, failure }
  | .pause _ :: signals => deliver failure wanted state signals
  | .line text :: signals =>
      let next := state.line text
      match next.2.name with
      | none =>
          let rest := deliver failure wanted next.1 signals
          { rest with notices := next.2.notices ++ rest.notices }
      | some name =>
          if wanted = some 1 then { names := [name], malformed := next.1.malformed }
          else
            let rest := deliver failure (wanted.map (· - 1)) next.1 signals
            { rest with names := name :: rest.names }

/-- A pass over a feed, up to the given number of names. -/
def Feed.pass (feed : Feed) (wanted : Option Nat) : Delivery :=
  let delivery := deliver feed.failure wanted {} feed.signals
  { delivery with notices := feed.opening.toList ++ delivery.notices }

end Typeahead.Catalog
