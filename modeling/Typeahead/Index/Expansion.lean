/-!
# The keys of a name

A name is found under each of its beginnings that has at least three characters
and is shorter than the name itself.  Names of three characters or fewer have no
keys.
-/

namespace Typeahead.Index

set_option autoImplicit false

/-- The length of the shortest key. -/
def shortestKey : Nat := 3

/-- A name together with one of its keys. -/
structure Pair where
  key : String
  name : String
  deriving DecidableEq, Repr, Inhabited

/-- The key of a given length. -/
def keyOfLength (name : String) (length : Nat) : String :=
  String.ofList (name.toList.take length)

/-- How many keys a name has. -/
def weight (name : String) : Nat :=
  name.length - shortestKey

/-- A name with each of its keys, the shortest key first. -/
def expansion (name : String) : List Pair :=
  (List.range (weight name)).map fun extra => ⟨keyOfLength name (shortestKey + extra), name⟩

/-- A way of listing the pairs of each name.  No order among them is better than another. -/
structure Enumeration where
  pairs : String → List Pair
  perm : ∀ name, (pairs name).Perm (expansion name)

/-- The pairs of a name in the order of their keys. -/
def Enumeration.ascending : Enumeration :=
  ⟨expansion, fun _ => List.Perm.refl _⟩

end Typeahead.Index
