import Mathlib.Data.Finset.Card
import Typeahead.Index.Writer
import Typeahead.Proofs.Index.Keys
import Typeahead.Proofs.Index.Queue

/-!
# How the keys of a name grow

The keys of a name come about when its first two characters grow by the
characters that follow, one at a time, up to the last character but one
(`grownKeys`).  These are the keys that the expansion of the name lists, in the
same order (`expansion_eq_grown`).  Each of them is longer than the one before,
so none comes twice, and a name of `n` characters has `n - 3` of them if it has
any (**`pairs_are_distinct_keys`**).
-/

namespace Typeahead.Index

open Typeahead.Store

set_option autoImplicit false

/-! ## Growing -/

/-- The texts to which a beginning grows by the characters behind it, one at a time. -/
def grow (beginning : List Char) : List Char → List (List Char)
  | [] => []
  | c :: behind => (beginning ++ [c]) :: grow (beginning ++ [c]) behind

/-- The keys of a name, grown from its first two characters up to the last character but one.  A
name of fewer than four characters has no keys. -/
def grownKeys (name : String) : List String :=
  if name.length < 4 then []
  else (grow (name.toList.take 2) (name.toList.dropLast.drop 2)).map String.ofList

/-- **What has grown is the beginning with more and more of the characters behind it.** -/
theorem grow_eq (beginning behind : List Char) :
    grow beginning behind =
      (List.range behind.length).map fun extra => beginning ++ behind.take (extra + 1) := by
  induction behind generalizing beginning with
  | nil => rfl
  | cons c behind inductionHypothesis =>
      rw [grow, inductionHypothesis, List.length_cons, List.range_succ_eq_map, List.map_cons,
        List.map_map]
      simp only [List.append_assoc, List.singleton_append, Function.comp_def, List.take_succ_cons,
        List.take_zero, Nat.succ_eq_add_one]

/-- The beginning of two characters and some of the characters behind it make a longer beginning, as
long as the last character stays out. -/
theorem take_append_take_dropLast {text : List Char} {extra : Nat}
    (inside : extra + 3 < text.length) :
    text.take 2 ++ (text.dropLast.drop 2).take (extra + 1) = text.take (3 + extra) := by
  have length : 3 + extra = 2 + (extra + 1) := by omega
  rw [List.dropLast_eq_take, List.drop_take, List.take_take, Nat.min_eq_left (by omega), length]
  exact List.take_add.symm

/-- **The expansion of a name lists the keys that grow out of its first two characters.** -/
theorem expansion_eq_grown (name : String) :
    expansion name = (grownKeys name).map fun key => ⟨key, name⟩ := by
  rw [expansion, grownKeys, weight, shortestKey]
  by_cases short : name.length < 4
  · rw [if_pos short, Nat.sub_eq_zero_of_le (Nat.le_of_lt_succ short)]
    rfl
  · have behind : (name.toList.dropLast.drop 2).length = name.length - 3 := by
      rw [List.length_drop, List.length_dropLast, String.length_toList]
      omega
    rw [if_neg short, grow_eq, behind, List.map_map, List.map_map]
    refine List.map_congr_left fun extra member => ?_
    have inside : extra + 3 < name.toList.length := by
      rw [String.length_toList]
      have := List.mem_range.mp member
      omega
    simp only [Function.comp_apply, take_append_take_dropLast inside, keyOfLength]

/-! ## Distinct pairs -/

/-- **No pair of a name is listed twice**: keys of different lengths are different. -/
theorem nodup_expansion (name : String) : (expansion name).Nodup := by
  refine List.Nodup.map_on ?_ List.nodup_range
  intro first firstMember second secondMember same
  rw [List.mem_range, weight, shortestKey] at firstMember secondMember
  have lengths := congrArg (fun pair : Pair => pair.key.length) same
  simp only [shortestKey] at lengths
  rw [length_keyOfLength (by omega), length_keyOfLength (by omega)] at lengths
  omega

/-- **The pairs of a name are its keys, each of them once.**  A pair is listed just when it has the
name and a beginning of it that has three characters or more and does not reach its end; it does not
matter in which order the pairs are listed, and they are the pairs that grow out of the first two
characters.  So many of them are counted when they are queued as there are, and no pair belongs to
two names. -/
theorem pairs_are_distinct_keys (σ : Type) {β : Type} [RankedStore σ β] (enumeration : Enumeration)
    (name : String) :
    (∀ key other : String, ⟨key, other⟩ ∈ enumeration.pairs name ↔
      other = name ∧ key.toList <+: name.toList ∧ 3 ≤ key.length ∧ key.length ≤ name.length - 1) ∧
    (∀ pair, pair ∈ enumeration.pairs name ↔ ∃ key ∈ grownKeys name, pair = ⟨key, name⟩) ∧
    (enumeration.pairs name).Nodup ∧
    ((enumeration.pairs name).toFinset.card : Int) = max 0 ((name.length : Int) - 3) ∧
    (∀ writer : Writer β, (writer.addAll σ (enumeration.pairs name)).pending =
      writer.pending + (enumeration.pairs name).toFinset.card) ∧
    ∀ other, other ≠ name → (enumeration.pairs name).Disjoint (enumeration.pairs other) := by
  have listed : ∀ {pair : Pair} {owner : String},
      pair ∈ enumeration.pairs owner ↔ pair.name = owner ∧ IsKey pair.key owner :=
    fun {_ owner} => (enumeration.perm owner).mem_iff.trans mem_expansion_iff
  have distinct : (enumeration.pairs name).Nodup :=
    (enumeration.perm name).nodup_iff.mpr (nodup_expansion name)
  have count : (enumeration.pairs name).toFinset.card = weight name := by
    rw [List.toFinset_card_of_nodup distinct, enumeration.length_pairs]
  refine ⟨fun key other => ?_, fun pair => ?_, distinct, ?_, fun writer => ?_, ?_⟩
  · rw [listed]
    refine and_congr_right fun _ => ⟨fun isKey => ?_, fun ⟨begins, long, short⟩ => ?_⟩
    · exact ⟨isKey.begins, isKey.long, Nat.le_sub_one_of_lt isKey.short⟩
    · have shorter : key.length < name.length := by omega
      exact ⟨long, shorter, begins⟩
  · rw [(enumeration.perm name).mem_iff, expansion_eq_grown, List.mem_map]
    simp only [eq_comm]
  · rw [count, weight, shortestKey]
    omega
  · rw [(Writer.counts_addAll writer _).1, List.toFinset_card_of_nodup distinct]
  · intro other different pair ofName ofOther
    exact different ((listed.mp ofOther).1.symm.trans (listed.mp ofName).1)

example : expansion "redis" = [⟨"red", "redis"⟩, ⟨"redi", "redis"⟩] := by decide +kernel

end Typeahead.Index
