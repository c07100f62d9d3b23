import Typeahead.Text.Utf8

/-!
# The order of texts and the order of their bytes

Of two characters the smaller one is spelled by bytes that fall below those of
the other at some byte that both have (`fallsBelow_utf8EncodeChar`).  What
follows the two characters cannot turn this around, so texts stand in the order
of their bytes (`encode_lt_encode_iff`).
-/

namespace Typeahead.Text

set_option autoImplicit false

/-- Bytes agree up to a place that both have, and there the first are smaller. -/
inductive FallsBelow : List UInt8 → List UInt8 → Prop where
  | here {first second : UInt8} (smaller : first < second) (firstRest secondRest : List UInt8) :
      FallsBelow (first :: firstRest) (second :: secondRest)
  | later (byte : UInt8) {first second : List UInt8} (rest : FallsBelow first second) :
      FallsBelow (byte :: first) (byte :: second)

/-- Whatever follows, bytes that fall below others come first. -/
theorem FallsBelow.append_lt {first second : List UInt8} (falls : FallsBelow first second)
    (firstRest secondRest : List UInt8) : first ++ firstRest < second ++ secondRest := by
  induction falls with
  | here smaller _ _ => exact List.cons_lt_cons_iff.mpr (.inl smaller)
  | later byte _ inductionHypothesis =>
      exact List.cons_lt_cons_iff.mpr (.inr ⟨rfl, inductionHypothesis⟩)

theorem ofNat_lt_ofNat {first second : Nat} (bound : second < 256) (smaller : first < second) :
    UInt8.ofNat first < UInt8.ofNat second := by
  rw [UInt8.lt_iff_toNat_lt, UInt8.toNat_ofNat', UInt8.toNat_ofNat', Nat.mod_eq_of_lt bound,
    Nat.mod_eq_of_lt (Nat.lt_trans smaller bound)]
  exact smaller

/-- Bytes fall below others when the first of them is smaller, or when it is the same and the
others fall below. -/
theorem fallsBelow_cons {first second : Nat} {firstRest secondRest : List UInt8}
    (bound : second < 256)
    (order : first < second ∨ first = second ∧ FallsBelow firstRest secondRest) :
    FallsBelow (UInt8.ofNat first :: firstRest) (UInt8.ofNat second :: secondRest) := by
  rcases order with smaller | ⟨rfl, rest⟩
  · exact .here (ofNat_lt_ofNat bound smaller) _ _
  · exact .later _ rest

/-! ## Characters -/

/-- Characters of two bytes: the upper bits decide, then the last six. -/
theorem fallsBelow_two {first second : Nat} (smaller : first < second) (bound : second < 0x800) :
    FallsBelow [UInt8.ofNat (first / 64 % 32 + 192), UInt8.ofNat (first % 64 + 128)]
      [UInt8.ofNat (second / 64 % 32 + 192), UInt8.ofNat (second % 64 + 128)] := by
  apply fallsBelow_cons (by omega)
  rcases Nat.lt_or_ge (first / 64) (second / 64) with upper | upper
  · exact .inl (by omega)
  · exact .inr ⟨by omega, fallsBelow_cons (by omega) (.inl (by omega))⟩

theorem fallsBelow_three {first second : Nat} (smaller : first < second)
    (bound : second < 0x10000) :
    FallsBelow
      [UInt8.ofNat (first / 4096 % 16 + 224), UInt8.ofNat (first / 64 % 64 + 128),
        UInt8.ofNat (first % 64 + 128)]
      [UInt8.ofNat (second / 4096 % 16 + 224), UInt8.ofNat (second / 64 % 64 + 128),
        UInt8.ofNat (second % 64 + 128)] := by
  apply fallsBelow_cons (by omega)
  rcases Nat.lt_or_ge (first / 4096) (second / 4096) with upper | upper
  · exact .inl (by omega)
  · refine .inr ⟨by omega, fallsBelow_cons (by omega) ?_⟩
    rcases Nat.lt_or_ge (first / 64) (second / 64) with middle | middle
    · exact .inl (by omega)
    · exact .inr ⟨by omega, fallsBelow_cons (by omega) (.inl (by omega))⟩

theorem fallsBelow_four {first second : Nat} (smaller : first < second)
    (bound : second < 0x110000) :
    FallsBelow
      [UInt8.ofNat (first / 262144 % 8 + 240), UInt8.ofNat (first / 4096 % 64 + 128),
        UInt8.ofNat (first / 64 % 64 + 128), UInt8.ofNat (first % 64 + 128)]
      [UInt8.ofNat (second / 262144 % 8 + 240), UInt8.ofNat (second / 4096 % 64 + 128),
        UInt8.ofNat (second / 64 % 64 + 128), UInt8.ofNat (second % 64 + 128)] := by
  apply fallsBelow_cons (by omega)
  rcases Nat.lt_or_ge (first / 262144) (second / 262144) with upper | upper
  · exact .inl (by omega)
  · refine .inr ⟨by omega, fallsBelow_cons (by omega) ?_⟩
    rcases Nat.lt_or_ge (first / 4096) (second / 4096) with middle | middle
    · exact .inl (by omega)
    · refine .inr ⟨by omega, fallsBelow_cons (by omega) ?_⟩
      rcases Nat.lt_or_ge (first / 64) (second / 64) with lower | lower
      · exact .inl (by omega)
      · exact .inr ⟨by omega, fallsBelow_cons (by omega) (.inl (by omega))⟩

theorem toNat_val_lt (c : Char) : c.val.toNat < 0x110000 := by
  rcases c.valid with low | ⟨_, high⟩
  · exact Nat.lt_trans low (by decide)
  · exact high

/-- **The bytes of a character fall below those of every greater character.** -/
theorem fallsBelow_utf8EncodeChar {first second : Char} (smaller : first < second) :
    FallsBelow (String.utf8EncodeChar first) (String.utf8EncodeChar second) := by
  have values : first.val.toNat < second.val.toNat := smaller
  have bound := toNat_val_lt second
  simp only [String.utf8EncodeChar]
  generalize first.val.toNat = low at values
  generalize second.val.toNat = high at values bound
  -- A character with more bytes has a greater first byte; with as many, the bits decide.
  by_cases one : high ≤ 127
  · rw [if_pos (by omega : low ≤ 127), if_pos one]
    exact fallsBelow_cons (by omega) (.inl values)
  · rw [if_neg one]
    by_cases two : high ≤ 2047
    · rw [if_pos two]
      split
      next => exact fallsBelow_cons (by omega) (.inl (by omega))
      next => rw [if_pos (by omega : low ≤ 2047)]; exact fallsBelow_two values (by omega)
    · rw [if_neg two]
      by_cases three : high ≤ 65535
      · rw [if_pos three]
        split
        next => exact fallsBelow_cons (by omega) (.inl (by omega))
        next =>
          split
          next => exact fallsBelow_cons (by omega) (.inl (by omega))
          next => rw [if_pos (by omega : low ≤ 65535)]; exact fallsBelow_three values (by omega)
      · rw [if_neg three]
        split
        next => exact fallsBelow_cons (by omega) (.inl (by omega))
        next =>
          split
          next => exact fallsBelow_cons (by omega) (.inl (by omega))
          next =>
            split
            next => exact fallsBelow_cons (by omega) (.inl (by omega))
            next => exact fallsBelow_four values bound

/-! ## Texts -/

theorem encode_cons (c : Char) (text : List Char) :
    encode (c :: text) = String.utf8EncodeChar c ++ encode text := rfl

theorem encode_lt_encode {first second : List Char} (smaller : first < second) :
    encode first < encode second := by
  induction first generalizing second with
  | nil =>
      cases second with
      | nil => exact absurd smaller (Std.lt_irrefl)
      | cons d second =>
          rw [encode_cons]
          obtain ⟨byte, bytes, spelled⟩ :=
            List.exists_cons_of_ne_nil (@String.utf8EncodeChar_ne_nil d)
          rw [spelled]
          exact List.nil_lt_cons _ _
  | cons c first inductionHypothesis =>
      cases second with
      | nil => exact absurd smaller (List.not_lt_nil _)
      | cons d second =>
          rw [encode_cons, encode_cons]
          rcases List.cons_lt_cons_iff.mp smaller with before | ⟨rfl, rest⟩
          · exact (fallsBelow_utf8EncodeChar before).append_lt _ _
          · exact List.append_left_lt (inductionHypothesis rest)

/-- **One text stands before another exactly when its bytes do.** -/
theorem encode_lt_encode_iff {first second : List Char} :
    encode first < encode second ↔ first < second := by
  refine ⟨fun bytes => ?_, encode_lt_encode⟩
  rcases Std.lt_trichotomy first second with smaller | rfl | greater
  · exact smaller
  · exact absurd bytes Std.lt_irrefl
  · exact absurd (Std.lt_trans bytes (encode_lt_encode greater)) Std.lt_irrefl

end Typeahead.Text
