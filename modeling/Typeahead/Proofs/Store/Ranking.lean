import Mathlib.Tactic.Tauto
import Typeahead.Proofs.Store.Content

/-!
# The order of the members

An entry precedes another when its score is smaller, or when the scores are
equal and its text is smaller (`Precedes`).  A store in memory lists the members
of a key in this order, each of them once (`pairwise_rankedEntries`); where all
scores are zero this is the strict order of the texts (`pairwise_ranked`).  The
members up to a rank are the first of the list (`rankSlice_zero`).
-/

namespace Typeahead.Store

set_option autoImplicit false

/-- The smaller score comes first, and of equal scores the smaller text. -/
def Precedes (first second : String × Rat) : Prop :=
  first.2 < second.2 ∨ first.2 = second.2 ∧ first.1 < second.1

namespace Precedes

theorem irrefl (entry : String × Rat) : ¬ Precedes entry entry := by
  rintro (smaller | ⟨_, smaller⟩)
  · exact Rat.lt_irrefl smaller
  · exact String.lt_irrefl _ smaller

theorem trans {first second third : String × Rat} (earlier : Precedes first second)
    (later : Precedes second third) : Precedes first third := by
  rcases earlier with earlier | ⟨earlierScore, earlierText⟩
  · rcases later with later | ⟨laterScore, _⟩
    · exact .inl (Std.lt_trans earlier later)
    · exact .inl (laterScore ▸ earlier)
  · rcases later with later | ⟨laterScore, laterText⟩
    · exact .inl (earlierScore ▸ later)
    · exact .inr ⟨earlierScore.trans laterScore, String.lt_trans earlierText laterText⟩

theorem asymm {first second : String × Rat} (earlier : Precedes first second) :
    ¬ Precedes second first := fun later => irrefl first (earlier.trans later)

/-- Of two different entries one precedes the other. -/
theorem trichotomy (first second : String × Rat) :
    Precedes first second ∨ first = second ∨ Precedes second first := by
  rcases Std.lt_trichotomy first.2 second.2 with smaller | same | greater
  · exact .inl (.inl smaller)
  · rcases Std.lt_trichotomy first.1 second.1 with before | equal | behind
    · exact .inl (.inr ⟨same, before⟩)
    · exact .inr (.inl (Prod.ext equal same))
    · exact .inr (.inr (.inr ⟨same.symm, behind⟩))
  · exact .inr (.inr (.inl greater))

end Precedes

theorem ranksBefore_iff (first second : String × Rat) :
    ranksBefore first second = true ↔ Precedes first second ∨ first = second := by
  simp only [ranksBefore, Precedes, Bool.or_eq_true, Bool.and_eq_true, decide_eq_true_eq,
    beq_iff_eq, Std.le_iff_lt_or_eq, Prod.ext_iff]
  tauto

theorem nodup_of_pairwise_precedes {entries : List (String × Rat)}
    (ordered : entries.Pairwise Precedes) : entries.Nodup := by
  refine ordered.imp ?_
  rintro first second earlier rfl
  exact Precedes.irrefl first earlier

/-- Lists that stand in the order of their entries are equal when they have the same entries. -/
theorem eq_of_pairwise_precedes {first second : List (String × Rat)}
    (firstOrdered : first.Pairwise Precedes) (secondOrdered : second.Pairwise Precedes)
    (same : ∀ entry, entry ∈ first ↔ entry ∈ second) : first = second := by
  have perm := (List.perm_ext_iff_of_nodup (nodup_of_pairwise_precedes firstOrdered)
    (nodup_of_pairwise_precedes secondOrdered)).mpr same
  exact perm.eq_of_pairwise (fun _ _ _ _ earlier later => (earlier.asymm later).elim)
    firstOrdered secondOrdered

/-! ## Members in order -/

/-- The members of a set with their scores, in the order of their ranks. -/
def rankedEntries (members : Members) : List (String × Rat) :=
  members.toList.mergeSort ranksBefore

theorem ranked_eq (members : Members) : ranked members = (rankedEntries members).map Prod.fst := rfl

theorem mem_rankedEntries_iff {members : Members} {member : String} {score : Rat} :
    (member, score) ∈ rankedEntries members ↔ members[member]? = some score := by
  rw [rankedEntries, (List.mergeSort_perm _ _).mem_iff,
    Std.ExtTreeMap.mem_toList_iff_getElem?_eq_some]

/-- **The members of a set are listed in their order, each of them once.** -/
theorem pairwise_rankedEntries (members : Members) :
    (rankedEntries members).Pairwise Precedes := by
  have ordered : (rankedEntries members).Pairwise fun first second => ranksBefore first second :=
    List.pairwise_mergeSort
      (fun first second third earlier later => by
        rw [ranksBefore_iff] at earlier later ⊢
        rcases earlier with earlier | rfl
        · rcases later with later | rfl
          · exact .inl (earlier.trans later)
          · exact .inl earlier
        · exact later)
      (fun first second => by
        rw [Bool.or_eq_true, ranksBefore_iff, ranksBefore_iff]
        rcases Precedes.trichotomy first second with before | same | behind
        · exact .inl (.inl before)
        · exact .inl (.inr same)
        · exact .inr (.inl behind))
      members.toList
  have distinct : (rankedEntries members).Nodup := by
    rw [rankedEntries, (List.mergeSort_perm _ _).nodup_iff]
    refine Std.ExtTreeMap.distinct_keys_toList.imp ?_
    rintro first second different rfl
    exact different Std.compare_self
  refine (ordered.and distinct).imp ?_
  rintro first second ⟨before, different⟩
  exact ((ranksBefore_iff first second).mp before).resolve_right different

theorem mem_ranked_iff {members : Members} {member : String} :
    member ∈ ranked members ↔ (members[member]?).isSome := by
  simp only [ranked_eq, List.mem_map, Prod.exists, mem_rankedEntries_iff, Option.isSome_iff_exists]
  constructor
  · rintro ⟨other, score, found, rfl⟩
    exact ⟨score, found⟩
  · rintro ⟨score, found⟩
    exact ⟨member, score, found, rfl⟩

/-- **Members with the score zero are listed in the strict order of their texts.** -/
theorem pairwise_ranked {members : Members}
    (zeros : ∀ (member : String) (score : Rat), members[member]? = some score → score = 0) :
    (ranked members).Pairwise (· < ·) := by
  rw [ranked_eq, List.pairwise_map]
  refine (pairwise_rankedEntries members).imp_of_mem ?_
  intro first second firstMember secondMember earlier
  have firstZero := zeros _ _ (mem_rankedEntries_iff.mp firstMember)
  have secondZero := zeros _ _ (mem_rankedEntries_iff.mp secondMember)
  rcases earlier with smaller | ⟨_, before⟩
  · rw [firstZero, secondZero] at smaller
    exact (Rat.lt_irrefl smaller).elim
  · exact before

/-! ## Members by rank -/

/-- The items from the first rank on are as many as are asked for. -/
theorem rankSlice_zero {α : Type} (items : List α) {limit : Int} (positive : 1 ≤ limit) :
    rankSlice items 0 (limit - 1) = items.take limit.toNat := by
  have notLast : limit - 1 ≠ -1 := by omega
  have first : clampPlace items.length 0 = 0 := by simp [clampPlace]
  have last : clampPlace items.length (limit - 1 + 1) = min items.length limit.toNat := by
    have nonnegative : ¬ limit < 0 := by omega
    rw [Int.sub_add_cancel, clampPlace, if_neg nonnegative]
  simp only [rankSlice, first, last, notLast, if_false, List.drop_zero]
  rw [Nat.min_comm, ← List.take_eq_take_min]

end Typeahead.Store
