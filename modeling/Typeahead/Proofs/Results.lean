import Mathlib.Data.List.Forall2

/-!
# Results of parts

A computation that can fail is put together from parts.  Where the whole gives a
value, its parts gave theirs; where it fails, one of them failed.
-/

namespace Typeahead

set_option autoImplicit false

variable {ε α β γ : Type}

theorem exists_of_map_eq_ok {f : α → β} {result : Except ε α} {value : β}
    (mapped : result.map f = .ok value) : ∃ inner, result = .ok inner ∧ f inner = value := by
  cases result with
  | error fault => exact nomatch mapped
  | ok inner => exact ⟨inner, rfl, Except.ok.inj mapped⟩

theorem exists_of_bind_eq_ok {next : α → Except ε β} {result : Except ε α} {value : β}
    (bound : result >>= next = .ok value) :
    ∃ inner, result = .ok inner ∧ next inner = .ok value := by
  cases result with
  | error fault => exact nomatch bound
  | ok inner => exact ⟨inner, rfl, bound⟩

theorem eq_ok_of_toOption {result : Except ε α} {value : α}
    (given : result.toOption = some value) : result = .ok value := by
  cases result with
  | error fault => exact nomatch given
  | ok inner => exact congrArg _ (Option.some.inj given)

theorem map_map (result : Except ε α) (f : α → β) (g : β → γ) :
    (result.map f).map g = result.map fun value => g (f value) := by
  cases result with
  | error fault => rfl
  | ok value => rfl

/-- A list of computations gives the values that they give one by one. -/
theorem mapM_eq_ok_iff {f : α → Except ε β} {items : List α} {values : List β} :
    items.mapM f = .ok values ↔ List.Forall₂ (fun item value => f item = .ok value) items values := by
  induction items generalizing values with
  | nil =>
    rw [List.mapM_nil, List.forall₂_nil_left_iff]
    exact ⟨fun same => (Except.ok.inj same).symm, fun none => none ▸ rfl⟩
  | cons item items inductionHypothesis =>
    rw [List.mapM_cons]
    constructor
    · intro given
      obtain ⟨value, first, given⟩ := exists_of_bind_eq_ok given
      obtain ⟨rest, others, whole⟩ := exists_of_bind_eq_ok given
      cases whole
      exact .cons first (inductionHypothesis.mp others)
    · rintro (_ | ⟨first, others⟩)
      rw [first, inductionHypothesis.mpr others]
      rfl

/-- A list of computations fails as one of them does. -/
theorem exists_of_mapM_eq_error {f : α → Except ε β} {items : List α} {fault : ε}
    (failed : items.mapM f = .error fault) : ∃ item ∈ items, f item = .error fault := by
  induction items with
  | nil => exact nomatch failed
  | cons item items inductionHypothesis =>
    rw [List.mapM_cons] at failed
    cases first : f item with
    | error cause =>
      rw [first] at failed
      cases failed
      exact ⟨item, List.mem_cons_self, first⟩
    | ok value =>
      cases others : items.mapM f with
      | error cause =>
        rw [first, others] at failed
        cases failed
        obtain ⟨other, member, same⟩ := inductionHypothesis others
        exact ⟨other, List.mem_cons_of_mem _ member, same⟩
      | ok values =>
        rw [first, others] at failed
        exact nomatch failed

end Typeahead
