import Typeahead.Proofs.Store.Ranking
import Typeahead.Proofs.Text.ByteOrder
import Typeahead.Store.Server

/-!
# The lists of a server

A server orders members of one score by their bytes, and that is the order of
their texts (`precedesOnServer_iff`).  Putting a member in its place keeps a
list in order (`pairwise_rankMember`), so the list of a set is the one that a
store in memory makes of it (`rankMember_rankedEntries`).  The server counts its
ranks in another way than a slice does, and both cut the same items out of a
list (`rankSlice_eq_rankRange`).  So a store in memory, which never looks at
bytes, lists the members of a key in the order of their scores and bytes
(**`range_in_order_of_bytes`**).
-/

namespace Typeahead.Store

open Typeahead.Text

set_option autoImplicit false

/-- **The order of the bytes is the order of the texts.** -/
theorem precedesOnServer_iff (first second : String × Rat) :
    precedesOnServer first second = true ↔ Precedes first second := by
  simp only [precedesOnServer, Precedes, Bool.or_eq_true, Bool.and_eq_true, decide_eq_true_eq,
    beq_iff_eq, encode_lt_encode_iff, String.lt_iff]

/-! ## Putting a member in its place -/

section Placing

variable {entry : String × Rat} {members : RankList}

theorem mem_placeMember {other : String × Rat} :
    other ∈ placeMember entry members ↔ other = entry ∨ other ∈ members := by
  induction members with
  | nil => simp [placeMember]
  | cons first rest inductionHypothesis =>
      rw [placeMember]
      split
      · simp only [List.mem_cons, inductionHypothesis]
        exact or_left_comm
      · simp only [List.mem_cons]

theorem pairwise_placeMember (ordered : members.Pairwise Precedes) (absent : entry ∉ members) :
    (placeMember entry members).Pairwise Precedes := by
  induction members with
  | nil => simp [placeMember]
  | cons first rest inductionHypothesis =>
      obtain ⟨before, restOrdered⟩ := List.pairwise_cons.mp ordered
      rw [List.mem_cons, not_or] at absent
      rw [placeMember]
      split
      next earlier =>
        rw [precedesOnServer_iff] at earlier
        refine List.pairwise_cons.mpr ⟨fun other member => ?_, ?_⟩
        · rcases mem_placeMember.mp member with rfl | member
          · exact earlier
          · exact before other member
        · exact inductionHypothesis restOrdered absent.2
      next notEarlier =>
        rw [precedesOnServer_iff] at notEarlier
        have later : Precedes entry first := by
          rcases Precedes.trichotomy entry first with later | same | earlier
          · exact later
          · exact absurd same absent.1
          · exact absurd earlier notEarlier
        refine List.pairwise_cons.mpr ⟨fun other member => ?_, ordered⟩
        rcases List.mem_cons.mp member with rfl | member
        · exact later
        · exact later.trans (before other member)

theorem mem_rankMember {other : String × Rat} :
    other ∈ rankMember entry members ↔ other = entry ∨ other ∈ members ∧ other.1 ≠ entry.1 := by
  simp only [rankMember, mem_placeMember, List.mem_filter, bne_iff_ne]

theorem pairwise_rankMember (ordered : members.Pairwise Precedes) :
    (rankMember entry members).Pairwise Precedes := by
  refine pairwise_placeMember (ordered.filter _) fun member => ?_
  exact (bne_iff_ne.mp (List.mem_filter.mp member).2) rfl

end Placing

theorem rankedEntries_empty : rankedEntries ∅ = [] := by
  rw [List.eq_nil_iff_forall_not_mem]
  rintro ⟨member, score⟩ listed
  rw [mem_rankedEntries_iff, Std.ExtTreeMap.getElem?_empty] at listed
  cases listed

/-- **Moving a member to its new place gives the list of the set with the new score.** -/
theorem rankMember_rankedEntries (members : Members) (member : String) (score : Rat) :
    rankMember (member, score) (rankedEntries members) =
      rankedEntries (members.insert member score) := by
  refine eq_of_pairwise_precedes (pairwise_rankMember (pairwise_rankedEntries members))
    (pairwise_rankedEntries _) ?_
  rintro ⟨other, otherScore⟩
  rw [mem_rankMember, mem_rankedEntries_iff, mem_rankedEntries_iff,
    Std.ExtTreeMap.getElem?_insert, Prod.ext_iff]
  by_cases same : member = other
  · simp [same, eq_comm]
  · simp [same, Ne.symm same]

/-! ## Counting ranks -/

/-- Both place the beginning alike, as far as it lies in the list. -/
theorem clampPlace_eq_resolveRank (length : Nat) (start : Int) :
    clampPlace length start = min length (max 0 (ServerStore.resolveRank length start)).toNat := by
  simp only [clampPlace, ServerStore.resolveRank]
  split <;> omega

/-- The place behind the last item, for the rank `-1` as for the others. -/
theorem placeBehind_eq_resolveRank (length : Nat) (stop : Int) :
    (if stop = -1 then length else clampPlace length (stop + 1)) =
      (min ((length : Int) - 1) (ServerStore.resolveRank length stop) + 1).toNat := by
  simp only [clampPlace, ServerStore.resolveRank]
  by_cases last : stop = -1
  · rw [if_pos last, if_pos (by omega : stop < 0)]
    omega
  · rw [if_neg last]
    by_cases negative : stop < 0
    · rw [if_pos negative, if_pos (by omega : stop + 1 < 0)]
      omega
    · rw [if_neg negative, if_neg (by omega : ¬ stop + 1 < 0)]
      omega

theorem map_rankSlice {α γ : Type} (view : α → γ) (items : List α) (start stop : Int) :
    rankSlice (items.map view) start stop = (rankSlice items start stop).map view := by
  simp only [rankSlice, List.length_map, List.map_drop, List.map_take]

/-- **A slice and a range of ranks are the same items, for all signs of the ranks.** -/
theorem rankSlice_eq_rankRange {α : Type} (items : List α) (start stop : Int) :
    rankSlice items start stop = ServerStore.rankRange items start stop := by
  simp only [rankSlice, ServerStore.rankRange]
  rw [placeBehind_eq_resolveRank, clampPlace_eq_resolveRank, List.drop_take]
  generalize beginning : max 0 (ServerStore.resolveRank items.length start) = first
  generalize ending : min ((items.length : Int) - 1)
    (ServerStore.resolveRank items.length stop) = last
  by_cases empty : last < first
  · have none : (last + 1).toNat - min items.length first.toNat = 0 := by omega
    rw [if_pos empty, none, List.take_zero]
  · have inside : min items.length first.toNat = first.toNat := by omega
    have width : (last + 1).toNat - first.toNat = (last - first + 1).toNat := by omega
    rw [if_neg empty, inside, width]

/-! ## Members in the order of their bytes -/

/-- The smaller score comes first, and of equal scores the text with the smaller bytes. -/
def bytesBefore (first second : String × Rat) : Bool :=
  first.2 < second.2 ||
    (first.2 == second.2 && decide (encode first.1.toList ≤ encode second.1.toList))

theorem encode_le_encode_iff {first second : String} :
    encode first.toList ≤ encode second.toList ↔ first ≤ second := by
  rw [← Std.not_lt, encode_lt_encode_iff, ← String.lt_iff, Std.not_lt]

/-- Whether one entry may stand before another can be told by their bytes. -/
theorem ranksBefore_eq_bytesBefore : ranksBefore = bytesBefore := by
  funext first second
  simp only [ranksBefore, bytesBefore, encode_le_encode_iff]

theorem range_eq_map_rankSlice {store : MemoryStore} {key : String} {members : Members}
    (found : store.sets[key]? = some members) (start stop : Int) :
    store.range key start stop = (rankSlice (rankedEntries members) start stop).map Prod.fst := by
  simp only [MemoryStore.range, found, ranked_eq, map_rankSlice]

/-- **A store in memory lists members as a server does.**  One text stands before another exactly
when its bytes in UTF-8 do.  So entries that are sorted by score and text are sorted by score and
bytes: reading a key cuts its slice out of the one list of all its members in which each precedes
the next by score and bytes. -/
theorem range_in_order_of_bytes :
    (∀ first second : String, first < second ↔ encode first.toList < encode second.toList) ∧
    (∀ entries : List (String × Rat),
      entries.mergeSort ranksBefore = entries.mergeSort bytesBefore) ∧
    ∀ (store : MemoryStore) (key : String) (members : Members), store.sets[key]? = some members →
      ∃ entries : List (String × Rat), entries.Perm members.toList ∧
        entries.Pairwise (fun first second => precedesOnServer first second = true) ∧
        (∀ others : List (String × Rat), others.Perm members.toList →
          others.Pairwise (fun first second => precedesOnServer first second = true) →
            others = entries) ∧
        ∀ start stop, store.range key start stop = (rankSlice entries start stop).map Prod.fst := by
  refine ⟨fun first second => ?_, fun entries => ?_, fun store key members found => ?_⟩
  · rw [encode_lt_encode_iff, String.lt_iff]
  · rw [ranksBefore_eq_bytesBefore]
  · have sorted : (rankedEntries members).Perm members.toList := List.mergeSort_perm _ _
    refine ⟨rankedEntries members, sorted, ?_, fun others perm ordered => ?_,
      range_eq_map_rankSlice found⟩
    · exact (pairwise_rankedEntries members).imp fun before => (precedesOnServer_iff _ _).mpr before
    · have precedes : others.Pairwise Precedes :=
        ordered.imp fun before => (precedesOnServer_iff _ _).mp before
      exact eq_of_pairwise_precedes precedes (pairwise_rankedEntries members) fun entry =>
        (perm.trans sorted.symm).mem_iff

end Typeahead.Store
