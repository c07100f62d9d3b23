import Mathlib.Algebra.GroupWithZero.Nat
import Typeahead.Index.Build

/-!
# Cutting weights into batches

Names with so many keys each are queued one after another, and the queue is
flushed between two names once it has reached a size.  This cuts the weights into
blocks, each closed as soon as it reaches the size (`GreedyCut`).  There is such
a cut of any weights (`exists_greedyCut`), and it tells how large the batches are
that a writer flushes (`GreedyCut.batchSizes_eq`).
-/

namespace Typeahead.Index

set_option autoImplicit false

/-- Weights are cut into blocks, each of which is closed as soon as its sum reaches the size, and a
rest that does not reach it. -/
structure GreedyCut (size : Nat) (weights : List Nat) (blocks : List (List Nat))
    (rest : List Nat) : Prop where
  flatten_append_eq : blocks.flatten ++ rest = weights
  closed : ∀ block ∈ blocks, size ≤ block.sum ∧ block.dropLast.sum < size
  short : rest.sum < size

/-- The sizes of the batches that are flushed when names of these weights come to so many pending
pairs, and what is left at the end is flushed too. -/
def batchSizes (size : Nat) : Nat → List Nat → List Nat
  | pending, [] => if pending = 0 then [] else [pending]
  | pending, weight :: weights =>
      if size ≤ pending + weight then (pending + weight) :: batchSizes size 0 weights
      else batchSizes size (pending + weight) weights

section Gathering

variable {size pending : Nat} {weights : List Nat}

theorem batchSizes_nil (size pending : Nat) :
    batchSizes size pending [] = if pending = 0 then [] else [pending] := rfl

theorem batchSizes_cons_of_le {weight : Nat} (reached : size ≤ pending + weight) :
    batchSizes size pending (weight :: weights) =
      (pending + weight) :: batchSizes size 0 weights :=
  if_pos reached

theorem batchSizes_cons_of_lt {weight : Nat} (short : pending + weight < size) :
    batchSizes size pending (weight :: weights) = batchSizes size (pending + weight) weights :=
  if_neg (Nat.not_le.mpr short)

/-- A block that reaches the size with its last weight is flushed as one batch. -/
theorem batchSizes_block_append {block : List Nat} (before : pending + block.dropLast.sum < size)
    (reached : size ≤ pending + block.sum) (weights : List Nat) :
    batchSizes size pending (block ++ weights) =
      (pending + block.sum) :: batchSizes size 0 weights := by
  induction block generalizing pending with
  | nil => exact absurd (Nat.lt_of_lt_of_le before reached) (Nat.lt_irrefl _)
  | cons weight block inductionHypothesis =>
      cases block with
      | nil =>
          rw [List.sum_singleton] at reached ⊢
          exact batchSizes_cons_of_le reached
      | cons next block =>
          rw [List.dropLast_cons_cons, List.sum_cons, ← Nat.add_assoc] at before
          rw [List.sum_cons, ← Nat.add_assoc] at reached ⊢
          have short : pending + weight < size := by omega
          rw [List.cons_append, batchSizes_cons_of_lt short]
          exact inductionHypothesis before reached

/-- Weights that do not reach the size are flushed as one batch at the end, if there is anything to
be flushed. -/
theorem batchSizes_of_lt (short : pending + weights.sum < size) :
    batchSizes size pending weights =
      if pending + weights.sum = 0 then [] else [pending + weights.sum] := by
  induction weights generalizing pending with
  | nil => exact batchSizes_nil size pending
  | cons weight weights inductionHypothesis =>
      rw [List.sum_cons, ← Nat.add_assoc] at short ⊢
      have shorter : pending + weight < size := by omega
      rw [batchSizes_cons_of_lt shorter]
      exact inductionHypothesis short

end Gathering

/-! ## Greedy cuts -/

namespace GreedyCut

variable {size : Nat} {weights : List Nat} {blocks : List (List Nat)} {rest : List Nat}

/-- **Each block is flushed as one batch, and so is the rest unless there is nothing in it.** -/
theorem batchSizes_eq (cut : GreedyCut size weights blocks rest) :
    batchSizes size 0 weights =
      blocks.map List.sum ++ if rest.sum = 0 then [] else [rest.sum] := by
  induction blocks generalizing weights with
  | nil =>
      have short : 0 + rest.sum < size := by
        rw [Nat.zero_add]
        exact cut.short
      have all : rest = weights := cut.flatten_append_eq
      rw [← all, batchSizes_of_lt short, Nat.zero_add]
      rfl
  | cons block blocks inductionHypothesis =>
      obtain ⟨⟨reached, before⟩, others⟩ := List.forall_mem_cons.mp cut.closed
      have behind : GreedyCut size (blocks.flatten ++ rest) blocks rest := ⟨rfl, others, cut.short⟩
      rw [← Nat.zero_add block.dropLast.sum] at before
      rw [← Nat.zero_add block.sum] at reached
      rw [← cut.flatten_append_eq, List.flatten_cons, List.append_assoc,
        batchSizes_block_append before reached, inductionHypothesis behind, Nat.zero_add]
      rfl

theorem length_batchSizes (cut : GreedyCut size weights blocks rest) :
    (batchSizes size 0 weights).length = blocks.length + if 0 < rest.sum then 1 else 0 := by
  rw [cut.batchSizes_eq, List.length_append, List.length_map]
  by_cases empty : rest.sum = 0
  · simp [empty]
  · simp [empty, Nat.pos_of_ne_zero empty]

/-- A block is at most one weight larger than it may be before it is closed. -/
theorem sum_block_le (cut : GreedyCut size weights blocks rest) {block : List Nat}
    (member : block ∈ blocks) : block.sum ≤ size - 1 + weights.max?.getD 0 := by
  obtain ⟨reached, before⟩ := cut.closed block member
  have some : block ≠ [] := by
    rintro rfl
    exact absurd (Nat.lt_of_lt_of_le before reached) (Nat.lt_irrefl _)
  have inside : block.getLast some ∈ weights := by
    rw [← cut.flatten_append_eq]
    exact List.mem_append_left _ (List.mem_flatten_of_mem member (List.getLast_mem some))
  have last : block.getLast some ≤ weights.max?.getD 0 := List.le_max?_getD_of_mem inside
  have parts : block.sum = block.dropLast.sum + block.getLast some := by
    conv => lhs; rw [← List.dropLast_concat_getLast some, List.sum_append, List.sum_singleton]
  omega

end GreedyCut

/-- Weights can be cut with some weights before them that do not reach the size. -/
theorem exists_greedyCut_append {size : Nat} (positive : 0 < size) (front : List Nat)
    (short : front.sum < size) (weights : List Nat) :
    ∃ blocks rest, GreedyCut size (front ++ weights) blocks rest := by
  induction weights generalizing front with
  | nil =>
      refine ⟨[], front, ?_, nofun, short⟩
      rw [List.append_nil]
      rfl
  | cons weight weights inductionHypothesis =>
      rw [List.append_cons]
      by_cases reached : size ≤ (front ++ [weight]).sum
      · obtain ⟨blocks, rest, cut⟩ := inductionHypothesis [] positive
        refine ⟨(front ++ [weight]) :: blocks, rest, ?_, ?_, cut.short⟩
        · rw [List.flatten_cons, List.append_assoc, cut.flatten_append_eq, List.nil_append]
        · refine List.forall_mem_cons.mpr ⟨⟨reached, ?_⟩, cut.closed⟩
          rw [List.dropLast_concat]
          exact short
      · exact inductionHypothesis _ (Nat.not_le.mp reached)

/-- **There is a greedy cut of any weights.** -/
theorem exists_greedyCut {size : Nat} (positive : 0 < size) (weights : List Nat) :
    ∃ blocks rest, GreedyCut size weights blocks rest :=
  exists_greedyCut_append positive [] positive weights

/-! ## How large the batches are -/

section Bounds

variable {size : Nat} (positive : 0 < size) (weights : List Nat)
include positive

/-- No batch is empty, and none is more than one weight larger than the size allows. -/
theorem forall_mem_batchSizes :
    ∀ count ∈ batchSizes size 0 weights,
      1 ≤ count ∧ count ≤ size - 1 + weights.max?.getD 0 := by
  obtain ⟨blocks, rest, cut⟩ := exists_greedyCut positive weights
  rw [cut.batchSizes_eq, List.forall_mem_append]
  constructor
  · intro count member
    obtain ⟨block, inside, rfl⟩ := List.mem_map.mp member
    exact ⟨Nat.le_trans positive (cut.closed block inside).1, cut.sum_block_le inside⟩
  · intro count member
    have short := cut.short
    split at member
    next => cases member
    next some =>
      obtain rfl := List.mem_singleton.mp member
      omega

/-- Every batch but the last one has reached the size. -/
theorem forall_mem_dropLast_batchSizes :
    ∀ count ∈ (batchSizes size 0 weights).dropLast, size ≤ count := by
  obtain ⟨blocks, rest, cut⟩ := exists_greedyCut positive weights
  have reached : ∀ count ∈ blocks.map List.sum, size ≤ count := by
    intro count member
    obtain ⟨block, inside, rfl⟩ := List.mem_map.mp member
    exact (cut.closed block inside).1
  rw [cut.batchSizes_eq]
  intro count member
  split at member
  next =>
    rw [List.append_nil] at member
    exact reached count ((List.dropLast_sublist _).subset member)
  next =>
    rw [List.dropLast_concat] at member
    exact reached count member

end Bounds

end Typeahead.Index
