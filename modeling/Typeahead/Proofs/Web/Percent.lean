import Typeahead.Proofs.Text.Decoding
import Typeahead.Web.Percent

/-!
# Encoding and decoding

Where a percent sign does not stand for itself, decoding an encoded text gives the
text back (`percentDecodeText_percentEncode`), and encoding it once more, with more
characters that stand for themselves, leaves it as it is
(`percentComplete_percentEncode`).
-/

namespace Typeahead.Web

open Typeahead.Text

set_option autoImplicit false

variable {safe : Char → Bool}

/-! ## Bytes -/

theorem hexDigit?_percentByte (byte : UInt8) :
    hexDigit? (hexDigit true (byte.toNat / 16)) = some (byte.toNat / 16) ∧
      hexDigit? (hexDigit true (byte.toNat % 16)) = some (byte.toNat % 16) := by
  have bound : byte.toNat < 256 := byte.toNat_lt
  exact ⟨hexDigit?_hexDigit true (by omega), hexDigit?_hexDigit true (by omega)⟩

theorem percentDecode_percentByte (byte : UInt8) (rest : List Char) :
    percentDecode (percentByte byte ++ rest) = byte :: percentDecode rest := by
  obtain ⟨high, low⟩ := hexDigit?_percentByte byte
  have joined : byte.toNat / 16 * 16 + byte.toNat % 16 = byte.toNat := Nat.div_add_mod' _ _
  simp only [percentByte, List.cons_append, List.nil_append, percentDecode, high, low, joined,
    UInt8.ofNat_toNat]

theorem percentComplete_percentByte (byte : UInt8) (rest : List Char) :
    percentComplete safe (percentByte byte ++ rest) =
      percentByte byte ++ percentComplete safe rest := by
  obtain ⟨high, low⟩ := hexDigit?_percentByte byte
  simp only [percentByte, List.cons_append, List.nil_append, percentComplete, high, low,
    Option.isSome_some, Bool.and_self, if_true]

theorem percentDecode_bytes (bytes : List UInt8) (rest : List Char) :
    percentDecode (bytes.flatMap percentByte ++ rest) = bytes ++ percentDecode rest := by
  induction bytes with
  | nil => rfl
  | cons byte bytes inductionHypothesis =>
      rw [List.flatMap_cons, List.append_assoc, percentDecode_percentByte, inductionHypothesis,
        List.cons_append]

theorem percentComplete_bytes (bytes : List UInt8) (rest : List Char) :
    percentComplete safe (bytes.flatMap percentByte ++ rest) =
      bytes.flatMap percentByte ++ percentComplete safe rest := by
  induction bytes with
  | nil => rfl
  | cons byte bytes inductionHypothesis =>
      rw [List.flatMap_cons, List.append_assoc, percentComplete_percentByte, inductionHypothesis,
        List.append_assoc]

/-! ## Characters -/

theorem percentDecode_cons {c : Char} (noMark : c ≠ '%') (rest : List Char) :
    percentDecode (c :: rest) = String.utf8EncodeChar c ++ percentDecode rest := by
  rw [percentDecode]
  exact fun _ _ _ isMark => absurd isMark noMark

theorem percentComplete_cons {c : Char} (noMark : c ≠ '%') (rest : List Char) :
    percentComplete safe (c :: rest) = percentChar safe c ++ percentComplete safe rest := by
  rw [percentComplete]
  exact fun _ _ _ isMark => absurd isMark noMark

theorem ne_of_safe {c mark : Char} (isSafe : safe c = true) (noMark : safe mark = false) :
    c ≠ mark := by
  rintro rfl
  rw [noMark] at isSafe
  exact nomatch isSafe

theorem percentDecode_percentChar (noMark : safe '%' = false) (c : Char) (rest : List Char) :
    percentDecode (percentChar safe c ++ rest) = String.utf8EncodeChar c ++ percentDecode rest := by
  rw [percentChar]
  split
  next isSafe => exact percentDecode_cons (ne_of_safe isSafe noMark) rest
  next => exact percentDecode_bytes _ rest

theorem percentComplete_percentChar {wider : Char → Bool} (noMark : safe '%' = false)
    (wide : ∀ c, safe c = true → wider c = true) (c : Char) (rest : List Char) :
    percentComplete wider (percentChar safe c ++ rest) =
      percentChar safe c ++ percentComplete wider rest := by
  rw [percentChar]
  split
  next isSafe =>
    rw [List.singleton_append, percentComplete_cons (ne_of_safe isSafe noMark), percentChar,
      if_pos (wide c isSafe)]
  next => exact percentComplete_bytes _ rest

/-! ## Texts -/

theorem percentEncode_append (safe : Char → Bool) (first second : List Char) :
    percentEncode safe (first ++ second) = percentEncode safe first ++ percentEncode safe second :=
  List.flatMap_append

theorem percentDecode_percentEncode (noMark : safe '%' = false) (text : List Char) :
    percentDecode (percentEncode safe text) = encode text := by
  induction text with
  | nil => rfl
  | cons c text inductionHypothesis =>
      rw [percentEncode, List.flatMap_cons, percentDecode_percentChar noMark, encode_cons]
      exact congrArg _ inductionHypothesis

/-- **Decoding undoes encoding.** -/
theorem percentDecodeText_percentEncode (noMark : safe '%' = false) (text : List Char) :
    percentDecodeText (percentEncode safe text) = text := by
  rw [percentDecodeText, percentDecode_percentEncode noMark, decodeReplacing_encode]

theorem percentEncode_injective (noMark : safe '%' = false) :
    Function.Injective (percentEncode safe) :=
  Function.LeftInverse.injective (percentDecodeText_percentEncode noMark)

/-- **What is encoded is not encoded again.** -/
theorem percentComplete_percentEncode {wider : Char → Bool} (noMark : safe '%' = false)
    (wide : ∀ c, safe c = true → wider c = true) (text : List Char) :
    percentComplete wider (percentEncode safe text) = percentEncode safe text := by
  induction text with
  | nil => rfl
  | cons c text inductionHypothesis =>
      rw [percentEncode, List.flatMap_cons, percentComplete_percentChar noMark wide]
      exact congrArg _ inductionHypothesis

/-- A text of safe characters is its own encoding. -/
theorem percentEncode_of_safe {text : List Char} (allSafe : ∀ c ∈ text, safe c = true) :
    percentEncode safe text = text := by
  induction text with
  | nil => rfl
  | cons c text inductionHypothesis =>
      obtain ⟨isSafe, others⟩ := List.forall_mem_cons.mp allSafe
      rw [percentEncode, List.flatMap_cons, percentChar, if_pos isSafe]
      exact congrArg _ (inductionHypothesis others)

/-- What an encoded character is made of: safe characters, percent signs and digits. -/
theorem mem_percentChar {c d : Char} (member : d ∈ percentChar safe c) :
    c = d ∧ safe d = true ∨ d = '%' ∨ ∃ value < 16, d = hexDigit true value := by
  rw [percentChar] at member
  split at member
  next isSafe =>
    obtain rfl := List.mem_singleton.mp member
    exact .inl ⟨rfl, isSafe⟩
  next =>
    obtain ⟨byte, -, inside⟩ := List.mem_flatMap.mp member
    have bound : byte.toNat < 256 := byte.toNat_lt
    rcases List.mem_cons.mp inside with mark | digits
    · exact .inr (.inl mark)
    · rcases List.mem_cons.mp digits with high | last
      · exact .inr (.inr ⟨byte.toNat / 16, by omega, high⟩)
      · exact .inr (.inr ⟨byte.toNat % 16, by omega, List.mem_singleton.mp last⟩)

theorem forall_percentEncode {Holds : Char → Prop} (safeHolds : ∀ c, safe c = true → Holds c)
    (markHolds : Holds '%') (digitHolds : ∀ value < 16, Holds (hexDigit true value))
    (text : List Char) : ∀ c ∈ percentEncode safe text, Holds c := by
  intro d member
  obtain ⟨c, -, inside⟩ := List.mem_flatMap.mp member
  rcases mem_percentChar inside with ⟨-, isSafe⟩ | rfl | ⟨value, bound, rfl⟩
  · exact safeHolds d isSafe
  · exact markHolds
  · exact digitHolds value bound

/-! ## Characters of ASCII -/

/-- What can be tried on all characters of ASCII holds of each of them. -/
theorem forall_ascii (Holds : Char → Prop) (all : ∀ code : Fin 128, Holds (Char.ofNat code))
    {c : Char} (low : c.toNat < 128) : Holds c := by
  rw [← Char.ofNat_toNat c]
  exact all ⟨c.toNat, low⟩

theorem toNat_le_of_le {c d : Char} (below : c ≤ d) : c.toNat ≤ d.toNat :=
  UInt32.le_iff_toNat_le.mp (Char.le_def.mp below)

theorem toNat_lt_of_isUnreserved {c : Char} (unreserved : isUnreserved c = true) :
    c.toNat < 128 := by
  simp only [isUnreserved, isAsciiDigit, asciiDigit?, Bool.or_eq_true, Bool.and_eq_true,
    decide_eq_true_eq, beq_iff_eq] at unreserved
  rcases unreserved with (((((digit | ⟨-, small⟩) | ⟨-, capital⟩) | rfl) | rfl) | rfl) | rfl
  · by_cases inRange : 0x30 ≤ c.toNat ∧ c.toNat ≤ 0x39
    · exact Nat.lt_of_le_of_lt inRange.2 (by decide)
    · rw [if_neg inRange] at digit
      exact nomatch digit
  · exact Nat.lt_of_le_of_lt (toNat_le_of_le small) (by decide)
  · exact Nat.lt_of_le_of_lt (toNat_le_of_le capital) (by decide)
  all_goals decide

end Typeahead.Web
