import Mathlib.Data.List.Perm.Basic
import Typeahead.Index.Expansion

/-!
# Which texts are keys of a name

A key of a name is said in terms of the two texts alone (`IsKey`).  The
expansion of a name holds exactly its keys (`mem_expansion_iff`), and every way
of listing the pairs of many names lists the same pairs.
-/

namespace Typeahead.Index

set_option autoImplicit false

/-- A key of a name begins the name, has at least three characters, and is shorter than the
name. -/
structure IsKey (key name : String) : Prop where
  long : 3 ≤ key.length
  short : key.length < name.length
  begins : key.toList <+: name.toList

instance (key name : String) : Decidable (IsKey key name) :=
  decidable_of_iff (3 ≤ key.length ∧ key.length < name.length ∧ key.toList <+: name.toList)
    ⟨fun ⟨long, short, begins⟩ => ⟨long, short, begins⟩,
      fun isKey => ⟨isKey.long, isKey.short, isKey.begins⟩⟩

/-- The key of a length that the name has is that long. -/
theorem length_keyOfLength {name : String} {length : Nat} (inside : length ≤ name.length) :
    (keyOfLength name length).length = length := by
  have bound : length ≤ name.toList.length := by rwa [String.length_toList]
  rw [keyOfLength, ← String.length_toList, String.toList_ofList, List.length_take]
  exact Nat.min_eq_left bound

theorem keyOfLength_begins (name : String) (length : Nat) :
    (keyOfLength name length).toList <+: name.toList := by
  rw [keyOfLength, String.toList_ofList]
  exact List.take_prefix length name.toList

/-- A text that begins a name is the key of its own length. -/
theorem eq_keyOfLength {key name : String} (begins : key.toList <+: name.toList) :
    keyOfLength name key.length = key := by
  rw [keyOfLength, ← String.length_toList, ← List.prefix_iff_eq_take.mp begins,
    String.ofList_toList]

/-- **The expansion of a name holds exactly its keys.** -/
theorem mem_expansion_iff {key name other : String} :
    ⟨key, other⟩ ∈ expansion name ↔ other = name ∧ IsKey key name := by
  simp only [expansion, weight, shortestKey, List.mem_map, List.mem_range, Pair.mk.injEq]
  constructor
  · rintro ⟨extra, small, rfl, rfl⟩
    have inside : 3 + extra ≤ name.length := by omega
    refine ⟨rfl, ?_, ?_, keyOfLength_begins name _⟩
    · rw [length_keyOfLength inside]
      omega
    · rw [length_keyOfLength inside]
      omega
  · rintro ⟨rfl, isKey⟩
    have long := isKey.long
    have short := isKey.short
    refine ⟨key.length - 3, by omega, ?_, rfl⟩
    rw [Nat.add_sub_cancel' long, eq_keyOfLength isKey.begins]

namespace Enumeration

variable (enumeration : Enumeration)

theorem length_pairs (name : String) : (enumeration.pairs name).length = weight name := by
  rw [(enumeration.perm name).length_eq, expansion, List.length_map, List.length_range]

/-- The pairs of many names are the same pairs in every way of listing them. -/
theorem flatMap_pairs_perm (names : List String) :
    (names.flatMap enumeration.pairs).Perm (names.flatMap expansion) :=
  List.Perm.flatMap_left names fun name _ => enumeration.perm name

end Enumeration

end Typeahead.Index
