import Typeahead.Proofs.Text.Decoding

/-!
# Bytes that spell no text

A decoder that has found no bad piece has read the bytes of the characters that it
has found, and holds the bytes of a character that has begun
(`exists_held_of_feed`).  So bytes without a bad piece, and with nothing held at
their end, spell a text (`eq_encode_of_feed`); and where bytes stop to be those with
which some text begins, the decoder finds no further character
(`chars_of_spoiled`).
-/

namespace Typeahead.Text

set_option autoImplicit false

/-- Some text is spelled by bytes that begin with these. -/
def BeginsText (bytes : List UInt8) : Prop :=
  ∃ text, bytes <+: encode text

/-! ## The bytes of a character by its code -/

theorem val_ofNat {code : Nat} (valid : code.isValidChar) : (Char.ofNat code).val.toNat = code :=
  toNat_ofNat_of_isValidChar valid

theorem utf8EncodeChar_one {code : Nat} (high : code < 0x80) :
    String.utf8EncodeChar (Char.ofNat code) = [.ofNat code] := by
  have value := val_ofNat (.inl (by omega) : code.isValidChar)
  simp only [String.utf8EncodeChar, value]
  rw [if_pos (by omega)]

theorem utf8EncodeChar_two {code : Nat} (low : 0x80 ≤ code) (high : code < 0x800) :
    String.utf8EncodeChar (Char.ofNat code) =
      [.ofNat (code / 64 + 192), .ofNat (code % 64 + 128)] := by
  have value := val_ofNat (.inl (by omega) : code.isValidChar)
  have lead : code / 64 % 32 = code / 64 := by omega
  simp only [String.utf8EncodeChar, value, lead]
  rw [if_neg (by omega), if_pos (by omega)]

theorem utf8EncodeChar_three {code : Nat} (low : 0x800 ≤ code) (high : code < 0x10000)
    (valid : code.isValidChar) :
    String.utf8EncodeChar (Char.ofNat code) =
      [.ofNat (code / 4096 + 224), .ofNat (code / 64 % 64 + 128), .ofNat (code % 64 + 128)] := by
  have lead : code / 4096 % 16 = code / 4096 := by omega
  simp only [String.utf8EncodeChar, val_ofNat valid, lead]
  rw [if_neg (by omega), if_neg (by omega), if_pos (by omega)]

theorem utf8EncodeChar_four {code : Nat} (low : 0x10000 ≤ code) (high : code < 0x110000) :
    String.utf8EncodeChar (Char.ofNat code) =
      [.ofNat (code / 262144 + 240), .ofNat (code / 4096 % 64 + 128),
        .ofNat (code / 64 % 64 + 128), .ofNat (code % 64 + 128)] := by
  have lead : code / 262144 % 8 = code / 262144 := by omega
  have value := val_ofNat (.inr (by omega) : code.isValidChar)
  simp only [String.utf8EncodeChar, value, lead]
  rw [if_neg (by omega), if_neg (by omega), if_neg (by omega)]

/-! ## The bytes that are held -/

/-- The bytes of a character that has begun, as a decoder remembers them. -/
inductive Held : List UInt8 → Begun → Prop where
  | two {bits : Nat} (low : 2 ≤ bits) (high : bits < 32) :
      Held [.ofNat (bits + 192)] { value := bits, missing := 1, low := 0x80, high := 0xBF }
  | three {bits : Nat} (high : bits < 16) :
      Held [.ofNat (bits + 224)]
        { value := bits, missing := 2, low := if bits = 0 then 0xA0 else 0x80, high := 0xBF }
  | threeMore {bits : Nat} (low : 0x20 ≤ bits) (high : bits < 0x400)
      (noSurrogate : beginsSurrogate bits = false) :
      Held [.ofNat (bits / 64 + 224), .ofNat (bits % 64 + 128)]
        { value := bits, missing := 1, low := 0x80, high := 0xBF }
  /-- the first two bytes of a surrogate, behind which no byte is right -/
  | surrogate {bits : Nat} (isSurrogate : beginsSurrogate bits = true) :
      Held [.ofNat (bits / 64 + 224), .ofNat (bits % 64 + 128)]
        { value := bits, missing := 1, low := 1, high := 0, loss := 2 }
  | four {bits : Nat} (high : bits < 5) :
      Held [.ofNat (bits + 240)]
        { value := bits, missing := 3, low := if bits = 0 then 0x90 else 0x80,
          high := if bits = 4 then 0x8F else 0xBF }
  | fourMore {bits : Nat} (low : 0x10 ≤ bits) (high : bits < 0x110) :
      Held [.ofNat (bits / 64 + 240), .ofNat (bits % 64 + 128)]
        { value := bits, missing := 2, low := 0x80, high := 0xBF }
  | fourMost {bits : Nat} (low : 0x400 ≤ bits) (high : bits < 0x4400) :
      Held [.ofNat (bits / 4096 + 240), .ofNat (bits / 64 % 64 + 128), .ofNat (bits % 64 + 128)]
        { value := bits, missing := 1, low := 0x80, high := 0xBF }

/-- What a decoder has found and remembers when one more byte has come: a character is complete,
or the byte is held, or it is bad. -/
inductive Taken (held : List UInt8) (byte : UInt8) : List Piece × Option Begun → Prop where
  | completes {c : Char} (spelled : held ++ [byte] = String.utf8EncodeChar c) :
      Taken held byte ([.char c], none)
  | holds {begun : Begun} (isHeld : Held (held ++ [byte]) begun) : Taken held byte ([], some begun)
  | spoils (pieces : List Piece) (state : Option Begun) : Taken held byte (.bad :: pieces, state)

theorem exists_eq_ofNat (byte : UInt8) : ∃ value < 256, byte = .ofNat value :=
  ⟨byte.toNat, byte.toNat_lt, UInt8.ofNat_toNat.symm⟩

theorem taken_beginUtf8 (byte : UInt8) : Taken [] byte (beginUtf8 byte) := by
  obtain ⟨value, bound, rfl⟩ := exists_eq_ofNat byte
  by_cases one : value < 0x80
  · have first : beginUtf8 (.ofNat value) = ([.char (Char.ofNat value)], none) := by
      rw [beginUtf8, toNat_ofNat bound]
      exact if_pos one
    rw [first]
    exact .completes (utf8EncodeChar_one one).symm
  by_cases bare : value < 0xC2
  · have first : beginUtf8 (.ofNat value) = ([.bad], none) := by
      rw [beginUtf8, toNat_ofNat bound, if_neg one]
      exact if_pos bare
    rw [first]
    exact .spoils _ _
  by_cases two : value < 0xE0
  · obtain ⟨bits, rfl⟩ := Nat.exists_eq_add_of_le' (by omega : 192 ≤ value)
    rw [beginUtf8_two (by omega) (by omega)]
    exact .holds (.two (by omega) (by omega))
  by_cases three : value < 0xF0
  · obtain ⟨bits, rfl⟩ := Nat.exists_eq_add_of_le' (by omega : 224 ≤ value)
    rw [beginUtf8_three (by omega)]
    exact .holds (.three (by omega))
  by_cases four : value < 0xF5
  · obtain ⟨bits, rfl⟩ := Nat.exists_eq_add_of_le' (by omega : 240 ≤ value)
    rw [beginUtf8_four (by omega)]
    exact .holds (.four (by omega))
  · have first : beginUtf8 (.ofNat value) = ([.bad], none) := by
      rw [beginUtf8, toNat_ofNat bound, if_neg one, if_neg bare, if_neg two, if_neg (by omega),
        if_neg (by omega), if_neg three, if_neg (by omega), if_neg (by omega)]
      exact if_neg (by omega)
    rw [first]
    exact .spoils _ _

theorem Held.loss_pos {held : List UInt8} {begun : Begun} (isHeld : Held held begun) :
    0 < begun.loss := by
  cases isHeld <;> exact Nat.succ_pos _

/-- A byte out of range spoils what is held. -/
theorem Held.spoiled_of_outside {held : List UInt8} {begun : Begun} (isHeld : Held held begun)
    {byte : UInt8} (outside : ¬ (begun.low ≤ byte.toNat ∧ byte.toNat ≤ begun.high)) :
    ∃ pieces state, stepUtf8 (some begun) byte = (.bad :: pieces, state) := by
  obtain ⟨loss, some⟩ := Nat.exists_eq_add_one.mpr isHeld.loss_pos
  simp only [stepUtf8, if_neg outside, Begun.spoiled, some, List.replicate_succ, List.cons_append]
  exact ⟨_, _, rfl⟩

/-- The second byte of a surrogate, whose first byte leaves it in range. -/
theorem stepUtf8_surrogate {begun : Begun} {bits : Nat} (bound : bits < 64)
    (low : begun.low ≤ bits + 128) (high : bits + 128 ≤ begun.high) (missing : 1 < begun.missing)
    (isSurrogate : beginsSurrogate (begun.value * 64 + bits) = true) :
    stepUtf8 (some begun) (.ofNat (bits + 128)) =
      ([], some { value := begun.value * 64 + bits, missing := 1, low := 1, high := 0,
                  loss := 2 }) := by
  have lower : (bits + 128) % 64 = bits := by omega
  simp only [stepUtf8, toNat_ofNat (by omega : bits + 128 < 256), lower, low, high, and_self,
    if_true, if_neg (by omega : ¬ begun.missing ≤ 1), isSurrogate]

/-- A character is valid when its bits without the last six begin no surrogate. -/
theorem isValidChar_of_not_beginsSurrogate {value bits : Nat} (bound : bits < 64)
    (few : value < 0x400) (noSurrogate : beginsSurrogate value = false) :
    (value * 64 + bits).isValidChar := by
  simp only [beginsSurrogate, Bool.and_eq_false_iff, decide_eq_false_iff_not] at noSurrogate
  rcases noSurrogate with low | high
  · exact .inl (by omega)
  · exact .inr (by omega)

/-- A byte in range is the last one of its character or is held. -/
theorem Held.taken_of_inside {held : List UInt8} {begun : Begun} (isHeld : Held held begun)
    {bits : Nat} (bound : bits < 64) (low : begun.low ≤ bits + 128)
    (high : bits + 128 ≤ begun.high) :
    Taken held (.ofNat (bits + 128)) (stepUtf8 (some begun) (.ofNat (bits + 128))) := by
  have upper (value : Nat) : (value * 64 + bits) / 64 = value := by omega
  have lower (value : Nat) : (value * 64 + bits) % 64 = bits := by omega
  have first (value : Nat) : (value * 64 + bits) / 4096 = value / 64 := by omega
  cases isHeld with
  | two =>
      rw [stepUtf8_last bound low high rfl]
      refine .completes ?_
      rw [utf8EncodeChar_two (by dsimp only; omega) (by dsimp only; omega), upper, lower]
      rfl
  | @three value few =>
      have least : (if value = 0 then 0xA0 else 0x80) ≤ bits + 128 := low
      cases surrogate : beginsSurrogate (value * 64 + bits) with
      | true =>
          rw [stepUtf8_surrogate bound low high (by dsimp only; omega) surrogate]
          have isHeld := Held.surrogate surrogate
          rw [upper, lower] at isHeld
          exact .holds isHeld
      | false =>
          rw [stepUtf8_inside bound low high (by dsimp only; omega) surrogate]
          have isHeld := @Held.threeMore (value * 64 + bits) (by split at least <;> omega) (by omega)
            surrogate
          rw [upper, lower] at isHeld
          exact .holds isHeld
  | @threeMore value few many noSurrogate =>
      rw [stepUtf8_last bound low high rfl]
      refine .completes ?_
      have valid := isValidChar_of_not_beginsSurrogate bound many noSurrogate
      rw [utf8EncodeChar_three (by omega) (by omega) valid, first, upper, lower]
      rfl
  | @surrogate value isSurrogate =>
      dsimp only at high
      omega
  | @four value few =>
      have least : (if value = 0 then 0x90 else 0x80) ≤ bits + 128 := low
      have greatest : bits + 128 ≤ (if value = 4 then 0x8F else 0xBF) := high
      have many : 0x10 ≤ value * 64 + bits := by split at least <;> omega
      have less : value * 64 + bits < 0x110 := by split at greatest <;> omega
      rw [stepUtf8_inside bound low high (by dsimp only; omega)
        (not_beginsSurrogate (.inl (by dsimp only; omega)))]
      have isHeld := Held.fourMore many less
      rw [upper, lower] at isHeld
      exact .holds isHeld
  | @fourMore value many few =>
      rw [stepUtf8_inside bound low high (by dsimp only; omega)
        (not_beginsSurrogate (.inr (by dsimp only; omega)))]
      have isHeld := @Held.fourMost (value * 64 + bits) (by omega) (by omega)
      rw [first, upper, lower] at isHeld
      exact .holds isHeld
  | @fourMost value many few =>
      rw [stepUtf8_last bound low high rfl]
      refine .completes ?_
      rw [utf8EncodeChar_four (by dsimp only; omega) (by dsimp only; omega), first, upper, lower]
      rw [show (value * 64 + bits) / 262144 = value / 4096 by omega]
      rfl

/-- Behind a byte that is held, a byte in range is never one that begins a character. -/
theorem Held.range {held : List UInt8} {begun : Begun} (isHeld : Held held begun) {value : Nat}
    (inside : begun.low ≤ value ∧ value ≤ begun.high) : 0x80 ≤ value ∧ value ≤ 0xBF := by
  obtain ⟨low, high⟩ := inside
  cases isHeld <;> dsimp only at low high <;> (try split at low) <;> (try split at high) <;> omega

/-- **What a held beginning and one more byte come to.** -/
theorem Held.taken {held : List UInt8} {begun : Begun} (isHeld : Held held begun) (byte : UInt8) :
    Taken held byte (stepUtf8 (some begun) byte) := by
  by_cases inside : begun.low ≤ byte.toNat ∧ byte.toNat ≤ begun.high
  · have range : 0x80 ≤ byte.toNat ∧ byte.toNat ≤ 0xBF := isHeld.range inside
    obtain ⟨value, bound, rfl⟩ := exists_eq_ofNat byte
    rw [toNat_ofNat bound] at inside range
    obtain ⟨bits, rfl⟩ := Nat.exists_eq_add_of_le' range.1
    exact isHeld.taken_of_inside (by omega) inside.1 inside.2
  · obtain ⟨pieces, state, spoiled⟩ := isHeld.spoiled_of_outside inside
    rw [spoiled]
    exact .spoils pieces state

/-! ## What is held behind the characters -/

/-- The bytes that a decoder holds, if it holds any. -/
inductive HeldBy : List UInt8 → Option Begun → Prop where
  | none : HeldBy [] none
  | some {held : List UInt8} {begun : Begun} (isHeld : Held held begun) : HeldBy held (some begun)

/-- No character has more than four bytes. -/
theorem HeldBy.length_le {held : List UInt8} {state : Option Begun} (isHeld : HeldBy held state) :
    held.length ≤ 3 := by
  cases isHeld with
  | none => exact Nat.zero_le 3
  | some isHeld => cases isHeld <;> simp only [List.length_cons, List.length_nil] <;> omega

theorem HeldBy.taken {held : List UInt8} {state : Option Begun} (isHeld : HeldBy held state)
    (byte : UInt8) : Taken held byte (stepUtf8 state byte) := by
  cases isHeld with
  | none => exact taken_beginUtf8 byte
  | some isHeld => exact isHeld.taken byte

theorem feed_cons (state : Option Begun) (byte : UInt8) (bytes : List UInt8) :
    Charset.utf8.feed state (byte :: bytes) =
      ((stepUtf8 state byte).1 ++ (Charset.utf8.feed (stepUtf8 state byte).2 bytes).1,
        (Charset.utf8.feed (stepUtf8 state byte).2 bytes).2) := rfl

/-- **Without a bad piece, the bytes are those of the characters found and those held.** -/
theorem exists_held_of_feed {held bytes : List UInt8} {state last : Option Begun}
    {text : List Char} (isHeld : HeldBy held state)
    (fed : Charset.utf8.feed state bytes = (text.map .char, last)) :
    ∃ rest, held ++ bytes = encode text ++ rest ∧ HeldBy rest last := by
  induction bytes generalizing held state text with
  | nil =>
      obtain ⟨nothing, rfl⟩ := Prod.mk.inj fed
      obtain rfl := List.map_eq_nil_iff.mp nothing.symm
      exact ⟨held, List.append_nil held, isHeld⟩
  | cons byte bytes inductionHypothesis =>
      have taken := isHeld.taken byte
      rw [feed_cons] at fed
      rw [List.append_cons]
      generalize stepUtf8 state byte = outcome at taken fed
      cases taken with
      | completes spelled =>
          obtain ⟨pieces, ends⟩ := Prod.mk.inj fed
          obtain ⟨c, others, rfl, found, further⟩ := List.map_eq_cons_iff.mp pieces.symm
          obtain rfl := Piece.char.inj found
          obtain ⟨rest, spells, stillHeld⟩ := inductionHypothesis .none (Prod.ext further.symm ends)
          refine ⟨rest, ?_, stillHeld⟩
          rw [spelled, encode_cons, List.append_assoc, ← spells, List.nil_append]
      | holds isHeld => exact inductionHypothesis (.some isHeld) fed
      | spoils pieces next =>
          obtain ⟨pieces, -⟩ := Prod.mk.inj fed
          obtain ⟨c, -, -, found, -⟩ := List.map_eq_cons_iff.mp pieces.symm
          exact nomatch found

/-- **Bytes in which nothing is bad spell the text that is found in them.** -/
theorem eq_encode_of_feed {bytes : List UInt8} {text : List Char}
    (fed : Charset.utf8.feed none bytes = (text.map .char, none)) : bytes = encode text := by
  obtain ⟨rest, spells, isHeld⟩ := exists_held_of_feed .none fed
  cases isHeld with
  | none => simpa using spells

/-! ## Where the bytes stop to begin a text -/

theorem encode_append_singleton (text : List Char) (c : Char) :
    encode (text ++ [c]) = encode text ++ String.utf8EncodeChar c := by
  rw [encode, List.flatMap_append, List.flatMap_singleton]
  rfl

/-- Bytes with which a text begins leave no bad piece. -/
theorem exists_feed_of_prefix {bytes : List UInt8} {text : List Char}
    (begins : bytes <+: encode text) :
    ∃ front back state, text = front ++ back ∧
      Charset.utf8.feed none bytes = (front.map .char, state) := by
  obtain ⟨rest, whole⟩ := begins
  have fed := feed_encode text
  rw [← whole, Charset.feed_append] at fed
  obtain ⟨front, back, rfl, found, -⟩ := List.map_eq_append_iff.mp (Prod.mk.inj fed).1.symm
  exact ⟨front, back, _, rfl, Prod.ext found.symm rfl⟩

/-- Bytes with a bad piece begin no text. -/
theorem not_beginsText_of_bad {bytes : List UInt8}
    (bad : .bad ∈ (Charset.utf8.feed none bytes).1) : ¬ BeginsText bytes := by
  rintro ⟨text, begins⟩
  obtain ⟨front, _, _, -, fed⟩ := exists_feed_of_prefix begins
  rw [fed] at bad
  obtain ⟨_, -, isBad⟩ := List.mem_map.mp bad
  exact nomatch isBad

/-- What is held begins a character, unless it begins a surrogate and spoils with the next byte. -/
theorem Held.begins {held : List UInt8} {begun : Begun} (isHeld : Held held begun) :
    (∃ c, held <+: String.utf8EncodeChar c) ∨
      ∀ byte, ∃ pieces state, stepUtf8 (some begun) byte = (.bad :: pieces, state) := by
  cases isHeld with
  | @two bits low high =>
      refine .inl ⟨Char.ofNat (bits * 64), ?_⟩
      rw [utf8EncodeChar_two (by omega) (by omega), Nat.mul_div_cancel _ (by decide)]
      exact List.prefix_append [_] _
  | @three bits high =>
      by_cases zero : bits = 0
      · subst zero
        exact .inl ⟨Char.ofNat 0x800, by decide⟩
      · have valid : (bits * 4096).isValidChar := by
          by_cases below : bits < 0xE
          · exact .inl (by omega)
          · exact .inr (by omega)
        refine .inl ⟨Char.ofNat (bits * 4096), ?_⟩
        rw [utf8EncodeChar_three (by omega) (by omega) valid, Nat.mul_div_cancel _ (by decide)]
        exact List.prefix_append [_] _
  | @threeMore bits low high noSurrogate =>
      have valid := isValidChar_of_not_beginsSurrogate (by decide : 0 < 64) high noSurrogate
      rw [Nat.add_zero] at valid
      have first : bits * 64 / 4096 = bits / 64 := by omega
      refine .inl ⟨Char.ofNat (bits * 64), ?_⟩
      rw [utf8EncodeChar_three (by omega) (by omega) valid, first,
        Nat.mul_div_cancel _ (by decide)]
      exact List.prefix_append [_, _] _
  | surrogate isSurrogate =>
      have none : ∀ value : Nat, ¬ (1 ≤ value ∧ value ≤ 0) := fun value => by omega
      exact .inr fun byte => (Held.surrogate isSurrogate).spoiled_of_outside (none _)
  | @four bits high =>
      by_cases zero : bits = 0
      · subst zero
        exact .inl ⟨Char.ofNat 0x10000, by decide⟩
      · refine .inl ⟨Char.ofNat (bits * 262144), ?_⟩
        rw [utf8EncodeChar_four (by omega) (by omega), Nat.mul_div_cancel _ (by decide)]
        exact List.prefix_append [_] _
  | @fourMore bits low high =>
      have first : bits * 4096 / 262144 = bits / 64 := by omega
      refine .inl ⟨Char.ofNat (bits * 4096), ?_⟩
      rw [utf8EncodeChar_four (by omega) (by omega), first, Nat.mul_div_cancel _ (by decide)]
      exact List.prefix_append [_, _] _
  | @fourMost bits low high =>
      have first : bits * 64 / 262144 = bits / 4096 := by omega
      have second : bits * 64 / 4096 = bits / 64 := by omega
      refine .inl ⟨Char.ofNat (bits * 64), ?_⟩
      rw [utf8EncodeChar_four (by omega) (by omega), first, second,
        Nat.mul_div_cancel _ (by decide)]
      exact List.prefix_append [_, _, _] _

/-- **No character is found any more where the bytes stop to begin a text.**  The decoder may take
one such byte without a bad piece, when it is the second one of a surrogate. -/
theorem chars_of_spoiled {front behind : List UInt8} {byte : UInt8} {chars : List Char}
    {last : Option Begun} (spoiled : ¬ BeginsText (front ++ [byte]))
    (fed : Charset.utf8.feed none (front ++ byte :: behind) = (chars.map .char, last)) :
    ∃ state, Charset.utf8.feed none front = (chars.map .char, state) := by
  rw [Charset.feed_append, feed_cons] at fed
  obtain ⟨found, -⟩ := Prod.mk.inj fed
  obtain ⟨text, more, rfl, before, after⟩ := List.map_eq_append_iff.mp found.symm
  generalize stateOf : (Charset.utf8.feed none front).2 = state at after
  have fedFront : Charset.utf8.feed none front = (text.map .char, state) :=
    Prod.ext before.symm stateOf
  obtain ⟨held, spells, isHeld⟩ := exists_held_of_feed .none fedFront
  rw [List.nil_append] at spells
  have taken := isHeld.taken byte
  generalize stepUtf8 state byte = outcome at taken after
  cases taken with
  | @completes c spelled =>
      have whole : encode (text ++ [c]) = front ++ [byte] := by
        rw [encode_append_singleton, ← spelled, ← List.append_assoc, ← spells]
      exact absurd ⟨text ++ [c], whole ▸ List.prefix_rfl⟩ spoiled
  | @holds begun isHeld =>
      rcases isHeld.begins with ⟨c, begins⟩ | spoils
      · refine absurd ⟨text ++ [c], ?_⟩ spoiled
        rw [spells, List.append_assoc, encode_append_singleton]
        exact (List.prefix_append_right_inj _).mpr begins
      · cases behind with
        | nil =>
            obtain rfl := List.map_eq_nil_iff.mp after
            exact ⟨state, by rw [List.append_nil, fedFront]⟩
        | cons next behind =>
            obtain ⟨pieces, state, isBad⟩ := spoils next
            rw [feed_cons, isBad] at after
            obtain ⟨c, -, -, bad, -⟩ := List.map_eq_cons_iff.mp after
            exact nomatch bad
  | spoils pieces next =>
      obtain ⟨c, -, -, bad, -⟩ := List.map_eq_cons_iff.mp after
      exact nomatch bad

end Typeahead.Text
