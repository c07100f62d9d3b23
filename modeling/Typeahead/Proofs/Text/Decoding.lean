import Typeahead.Proofs.Text.ByteOrder

/-!
# Decoding what was encoded

A decoder that is fed in parts finds what it finds when it is fed at once
(`Charset.feed_append`).  Fed with the bytes of a text it finds the characters of
the text, and nothing is left begun (`feed_encode`).
-/

namespace Typeahead.Text

set_option autoImplicit false

/-- **It does not matter how bytes are cut.** -/
theorem Charset.feed_append (charset : Charset) (state : Option Begun)
    (first second : List UInt8) :
    charset.feed state (first ++ second) =
      ((charset.feed state first).1 ++ (charset.feed (charset.feed state first).2 second).1,
        (charset.feed (charset.feed state first).2 second).2) := by
  induction first generalizing state with
  | nil => rfl
  | cons byte first inductionHypothesis =>
      simp only [List.cons_append, Charset.feed, inductionHypothesis, List.append_assoc]

/-! ## The bytes of one character -/

theorem toNat_ofNat {value : Nat} (bound : value < 256) : (UInt8.ofNat value).toNat = value := by
  rw [UInt8.toNat_ofNat', Nat.mod_eq_of_lt bound]

theorem toNat_ofNat_of_isValidChar {code : Nat} (valid : code.isValidChar) :
    (Char.ofNat code).toNat = code := by
  rw [Char.ofNat, dif_pos valid]
  rfl

/-- The first of two bytes. -/
theorem beginUtf8_two {bits : Nat} (low : 2 ≤ bits) (high : bits < 32) :
    beginUtf8 (UInt8.ofNat (bits + 192)) =
      ([], some { value := bits, missing := 1, low := 0x80, high := 0xBF }) := by
  rw [beginUtf8, toNat_ofNat (by omega)]
  rw [if_neg (by omega), if_neg (by omega), if_pos (by omega), Nat.add_sub_cancel]

/-- The first of three bytes. -/
theorem beginUtf8_three {bits : Nat} (high : bits < 16) :
    beginUtf8 (UInt8.ofNat (bits + 224)) =
      ([], some { value := bits, missing := 2, low := if bits = 0 then 0xA0 else 0x80,
                  high := 0xBF }) := by
  rw [beginUtf8, toNat_ofNat (by omega)]
  rw [if_neg (by omega), if_neg (by omega), if_neg (by omega)]
  by_cases zero : bits = 0
  · rw [if_pos (by omega), if_pos zero, zero]
  · rw [if_neg (by omega), if_neg zero]
    by_cases surrogates : bits = 0xD
    · rw [if_pos (by omega), surrogates]
    · rw [if_neg (by omega), if_pos (by omega), Nat.add_sub_cancel]

/-- The first of four bytes. -/
theorem beginUtf8_four {bits : Nat} (high : bits < 5) :
    beginUtf8 (UInt8.ofNat (bits + 240)) =
      ([], some { value := bits, missing := 3, low := if bits = 0 then 0x90 else 0x80,
                  high := if bits = 4 then 0x8F else 0xBF }) := by
  rw [beginUtf8, toNat_ofNat (by omega)]
  rw [if_neg (by omega), if_neg (by omega), if_neg (by omega), if_neg (by omega),
    if_neg (by omega), if_neg (by omega)]
  by_cases zero : bits = 0
  · rw [if_pos (by omega), if_pos zero, if_neg (by omega), zero]
  · rw [if_neg (by omega), if_neg zero]
    by_cases last : bits = 4
    · rw [if_neg (by omega), if_pos (by omega), if_pos last, last]
    · rw [if_pos (by omega), if_neg last, Nat.add_sub_cancel]

theorem stepUtf8_none (byte : UInt8) : stepUtf8 none byte = beginUtf8 byte := rfl

/-- A byte in range that is not the last one of its character. -/
theorem stepUtf8_inside {begun : Begun} {bits : Nat} (bound : bits < 64)
    (low : begun.low ≤ bits + 128) (high : bits + 128 ≤ begun.high) (missing : 1 < begun.missing)
    (noSurrogate : beginsSurrogate (begun.value * 64 + bits) = false) :
    stepUtf8 (some begun) (UInt8.ofNat (bits + 128)) =
      ([], some { value := begun.value * 64 + bits, missing := begun.missing - 1, low := 0x80,
                  high := 0xBF }) := by
  have lower : (bits + 128) % 64 = bits := by omega
  simp only [stepUtf8, toNat_ofNat (by omega : bits + 128 < 256), lower, low, high, and_self,
    if_true, if_neg (by omega : ¬ begun.missing ≤ 1), noSurrogate, Bool.false_eq_true, if_false]

/-- A byte in range that is the last one of its character. -/
theorem stepUtf8_last {begun : Begun} {bits : Nat} (bound : bits < 64)
    (low : begun.low ≤ bits + 128) (high : bits + 128 ≤ begun.high)
    (missing : begun.missing = 1) :
    stepUtf8 (some begun) (UInt8.ofNat (bits + 128)) =
      ([.char (Char.ofNat (begun.value * 64 + bits))], none) := by
  have lower : (bits + 128) % 64 = bits := by omega
  simp only [stepUtf8, toNat_ofNat (by omega : bits + 128 < 256), lower, low, high, and_self,
    if_true, missing, Nat.le_refl]

theorem not_beginsSurrogate {value : Nat} (outside : value < 0x360 ∨ 0x380 ≤ value) :
    beginsSurrogate value = false := by
  simp only [beginsSurrogate, Bool.and_eq_false_iff, decide_eq_false_iff_not]
  omega

theorem feed_two {code : Nat} (low : 0x80 ≤ code) (high : code < 0x800) :
    Charset.utf8.feed none [UInt8.ofNat (code / 64 % 32 + 192), UInt8.ofNat (code % 64 + 128)] =
      ([.char (Char.ofNat code)], none) := by
  have lower : code % 64 < 64 := Nat.mod_lt _ (by decide)
  have joined : code / 64 % 32 * 64 + code % 64 = code := by omega
  have first := beginUtf8_two (by omega : 2 ≤ code / 64 % 32) (by omega)
  simp only [Charset.feed, Charset.step, stepUtf8_none, first]
  rw [stepUtf8_last lower (by dsimp only; omega) (by dsimp only; omega) rfl, joined]
  rfl

theorem feed_three {code : Nat} (low : 0x800 ≤ code) (high : code < 0x10000)
    (noSurrogate : code < 0xD800 ∨ 0xDFFF < code) :
    Charset.utf8.feed none
        [UInt8.ofNat (code / 4096 % 16 + 224), UInt8.ofNat (code / 64 % 64 + 128),
          UInt8.ofNat (code % 64 + 128)] =
      ([.char (Char.ofNat code)], none) := by
  have lower : code % 64 < 64 := Nat.mod_lt _ (by decide)
  have middle : code / 64 % 64 < 64 := Nat.mod_lt _ (by decide)
  have joined : (code / 4096 % 16 * 64 + code / 64 % 64) * 64 + code % 64 = code := by omega
  have first := beginUtf8_three (by omega : code / 4096 % 16 < 16)
  simp only [Charset.feed, Charset.step, stepUtf8_none, first]
  rw [stepUtf8_inside middle (by dsimp only; split <;> omega) (by dsimp only; omega)
    (by dsimp only; omega) (not_beginsSurrogate (by dsimp only; omega))]
  rw [stepUtf8_last lower (by dsimp only; omega) (by dsimp only; omega) rfl, joined]
  rfl

theorem feed_four {code : Nat} (low : 0x10000 ≤ code) (high : code < 0x110000) :
    Charset.utf8.feed none
        [UInt8.ofNat (code / 262144 % 8 + 240), UInt8.ofNat (code / 4096 % 64 + 128),
          UInt8.ofNat (code / 64 % 64 + 128), UInt8.ofNat (code % 64 + 128)] =
      ([.char (Char.ofNat code)], none) := by
  have lower : code % 64 < 64 := Nat.mod_lt _ (by decide)
  have middle : code / 64 % 64 < 64 := Nat.mod_lt _ (by decide)
  have upper : code / 4096 % 64 < 64 := Nat.mod_lt _ (by decide)
  have joined : ((code / 262144 % 8 * 64 + code / 4096 % 64) * 64 + code / 64 % 64) * 64 +
      code % 64 = code := by omega
  have first := beginUtf8_four (by omega : code / 262144 % 8 < 5)
  simp only [Charset.feed, Charset.step, stepUtf8_none, first]
  rw [stepUtf8_inside upper (by dsimp only; split <;> omega) (by dsimp only; split <;> omega)
    (by dsimp only; omega) (not_beginsSurrogate (by dsimp only; omega))]
  rw [stepUtf8_inside middle (by dsimp only; omega) (by dsimp only; omega)
    (by dsimp only; omega) (not_beginsSurrogate (by dsimp only; omega))]
  rw [stepUtf8_last lower (by dsimp only; omega) (by dsimp only; omega) rfl, joined]
  rfl

/-- **The bytes of a character are read as this character.** -/
theorem feed_utf8EncodeChar (c : Char) :
    Charset.utf8.feed none (String.utf8EncodeChar c) = ([.char c], none) := by
  have valid : c.val.toNat < 0xD800 ∨ 0xDFFF < c.val.toNat ∧ c.val.toNat < 0x110000 := c.valid
  have same : Char.ofNat c.val.toNat = c := Char.ofNat_toNat c
  simp only [String.utf8EncodeChar]
  generalize c.val.toNat = code at valid same
  rw [← same]
  by_cases one : code ≤ 127
  · rw [if_pos one]
    have first : beginUtf8 (UInt8.ofNat code) = ([.char (Char.ofNat code)], none) := by
      rw [beginUtf8, toNat_ofNat (by omega)]
      exact if_pos (by omega)
    simp only [Charset.feed, Charset.step, stepUtf8, first, List.append_nil]
  · rw [if_neg one]
    by_cases two : code ≤ 2047
    · rw [if_pos two]
      exact feed_two (by omega) (by omega)
    · rw [if_neg two]
      by_cases three : code ≤ 65535
      · rw [if_pos three]
        exact feed_three (by omega) (by omega) (by omega)
      · rw [if_neg three]
        exact feed_four (by omega) (by omega)

/-- **The bytes of a text are read as this text.** -/
theorem feed_encode (text : List Char) :
    Charset.utf8.feed none (encode text) = (text.map .char, none) := by
  induction text with
  | nil => rfl
  | cons c text inductionHypothesis =>
      rw [encode_cons, Charset.feed_append, feed_utf8EncodeChar, inductionHypothesis]
      rfl

theorem map_replaced (text : List Char) : (text.map Piece.char).map Piece.replaced = text := by
  rw [List.map_map]
  exact List.map_id text

theorem mapM_char? (text : List Char) : (text.map Piece.char).mapM Piece.char? = some text := by
  induction text with
  | nil => rfl
  | cons c text inductionHypothesis =>
      rw [List.map_cons, List.mapM_cons, inductionHypothesis]
      rfl

theorem decode?_encode (text : List Char) : decode? (encode text) = some text := by
  rw [decode?, feed_encode]
  simp only [closePieces, List.append_nil, mapM_char?]

theorem decodeReplacing_encode (text : List Char) : decodeReplacing (encode text) = text := by
  rw [decodeReplacing, feed_encode]
  simp only [closePieces, List.append_nil, map_replaced]

end Typeahead.Text
