import Typeahead.Catalog.Pass

/-!
# Sources

A source is read in passes.  A pass is asked for one name at a time, and reads on
until a line brings one; whoever asks may stop asking at any moment.  The
malformed lines are counted in the source: from zero when a pass is asked for its
first name, and the count stays there when the pass is left.
-/

namespace Typeahead.Catalog

set_option autoImplicit false

/-- What a source remembers from one pass to the next. -/
structure Source where
  malformed : Nat := 0
  deriving DecidableEq, Repr, Inhabited

/-- A pass between two requests. -/
inductive OpenPass where
  /-- nobody has asked for a name yet -/
  | fresh (feed : Feed)
  | reading (headerSkipped : Bool) (signals : List Signal) (failure : Option SourceFault)
  | finished
  deriving Repr, Inhabited

/-- What is found on the way to the next name. -/
structure Finding where
  state : PassState
  /-- what is still to come behind the name -/
  signals : List Signal := []
  name : Option String := none
  notices : List Notice := []
  deriving Repr, Inhabited

/-- Reads on to the next name. -/
def seek (state : PassState) : List Signal → Finding
  | [] => { state }
  | .pause _ :: signals => seek state signals
  | .line text :: signals =>
      let next := state.line text
      match next.2.name with
      | some name => { state := next.1, signals, name := some name }
      | none =>
          let rest := seek next.1 signals
          { rest with notices := next.2.notices ++ rest.notices }

/-- What a request brings: a name, or the end of the pass with its failure. -/
structure Brought where
  name : Option String := none
  notices : List Notice := []
  failure : Option SourceFault := none
  deriving DecidableEq, Repr, Inhabited

/-- A request to a pass that has begun. -/
def readOn (source : Source) (headerSkipped : Bool) (signals : List Signal)
    (failure : Option SourceFault) : Brought × Source × OpenPass :=
  let found := seek ⟨headerSkipped, source.malformed⟩ signals
  match found.name with
  | some name =>
      ({ name := some name, notices := found.notices }, ⟨found.state.malformed⟩,
        .reading found.state.headerSkipped found.signals failure)
  | none => ({ notices := found.notices, failure }, ⟨found.state.malformed⟩, .finished)

/-- A request. -/
def OpenPass.request (source : Source) : OpenPass → Brought × Source × OpenPass
  | .fresh feed =>
      let next := readOn ⟨0⟩ false feed.signals feed.failure
      ({ next.1 with notices := feed.opening.toList ++ next.1.notices }, next.2)
  | .reading headerSkipped signals failure => readOn source headerSkipped signals failure
  | .finished => ({}, source, .finished)

/-- Asks for so many names, or until the pass is over. -/
def OpenPass.ask : Nat → Source → OpenPass → Delivery × Source × OpenPass
  | 0, source, pass => ({ malformed := source.malformed }, source, pass)
  | requests + 1, source, pass =>
      let next := pass.request source
      match next.1.name with
      | none =>
          ({ malformed := next.2.1.malformed, notices := next.1.notices,
             failure := next.1.failure }, next.2)
      | some name =>
          let rest := ask requests next.2.1 next.2.2
          ({ rest.1 with names := name :: rest.1.names,
                         notices := next.1.notices ++ rest.1.notices }, rest.2)

/-- A pass over a feed from its first request to its last one. -/
def Source.visit (source : Source) (feed : Feed) (requests : Nat) :
    Delivery × Source × OpenPass :=
  OpenPass.ask requests source (.fresh feed)

/-- Passes one after another, each with the requests that are made to it. -/
def Source.visits : Source → List (Feed × Nat) → List Delivery × Source
  | source, [] => ([], source)
  | source, (feed, requests) :: passes =>
      let visit := source.visit feed requests
      let rest := visits visit.2.1 passes
      (visit.1 :: rest.1, rest.2)

/-- Enough requests for all names of a feed, and to be told that there are no more. -/
def Feed.enough (feed : Feed) : Nat :=
  feed.signals.length + 1

end Typeahead.Catalog
