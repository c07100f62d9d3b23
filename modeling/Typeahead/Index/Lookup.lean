import Typeahead.Store.Ranked

/-!
# Looking up suggestions

A typed text is looked up as it is: without folding its case and without
trimming it, it is a key of the index or it is not.
-/

namespace Typeahead.Index

open Typeahead.Store

set_option autoImplicit false

/-- How suggestions are given. -/
structure Lookup where
  /-- how many suggestions are given at most -/
  limit : Int := 11
  /-- for how many seconds an answer may be kept -/
  maxAge : Int := 300
  deriving DecidableEq, Repr, Inhabited

/-- How long an answer may be kept, as a header says it. -/
def Lookup.cacheControl (lookup : Lookup) : String :=
  "max-age=" ++ toString lookup.maxAge

/-- The suggestions for a typed text. -/
def Lookup.suggestions {σ β : Type} [RankedStore σ β] (lookup : Lookup) (store : σ)
    (typed : String) : Except ReadFault (List String) :=
  RankedStore.range store typed 0 (lookup.limit - 1)

end Typeahead.Index
