import Typeahead.Client
import Typeahead.Proofs.Text.WellFormed
import Typeahead.Proofs.Web.Percent

/-!
# What the end of an address spells

The text that a client puts at the end of an address is made of plain characters
and of triplets, a percent sign with two hexadecimal digits, and each of these
spells one byte (`Spells`).  A text spells no bytes but one list of them
(`Spells.percentDecode_eq`), and what is written for a typed text spells the
bytes of this text (`spells_percentEncode`).  So the typed text can be read out
of the address again, whatever it is (**`addressText_spells`**).
-/

namespace Typeahead

open Typeahead.Text Typeahead.Web

set_option autoImplicit false

/-! ## Plain characters and triplets -/

namespace Web

/-- The letters and digits of ASCII and six marks, which stand for themselves. -/
def IsPlain (c : Char) : Prop :=
  ('a' ≤ c ∧ c ≤ 'z') ∨ ('A' ≤ c ∧ c ≤ 'Z') ∨ ('0' ≤ c ∧ c ≤ '9') ∨
    c ∈ ['_', '.', '-', '~', '/', '@']

/-- Plain characters and triplets spell bytes, one each. -/
inductive Spells : List Char → List UInt8 → Prop where
  | nil : Spells [] []
  | plain {c : Char} (isPlain : IsPlain c) {text : List Char} {bytes : List UInt8}
      (rest : Spells text bytes) : Spells (c :: text) (UInt8.ofNat c.toNat :: bytes)
  | triplet {first second : Char} {high low : Nat} (isHigh : hexDigit? first = some high)
      (isLow : hexDigit? second = some low) {text : List Char} {bytes : List UInt8}
      (rest : Spells text bytes) :
      Spells ('%' :: first :: second :: text) (UInt8.ofNat (high * 16 + low) :: bytes)

theorem isPlain_iff {c : Char} : IsPlain c ↔ Client.isTypedSafe c = true := by
  have digit : isAsciiDigit c = true ↔ '0' ≤ c ∧ c ≤ '9' := by
    rw [isAsciiDigit, asciiDigit?, Option.isSome_ite]
    exact Iff.rfl
  simp only [IsPlain, Client.isTypedSafe, isUnreserved, Bool.or_eq_true, Bool.and_eq_true, digit,
    decide_eq_true_eq, beq_iff_eq, List.mem_cons, List.not_mem_nil, or_false]
  -- both sides list the same cases, in two orders
  refine Iff.of_eq ?_
  ac_rfl

theorem toNat_lt_of_isPlain {c : Char} (isPlain : IsPlain c) : c.toNat < 128 := by
  rw [isPlain_iff, Client.isTypedSafe, Bool.or_eq_true, Bool.or_eq_true, beq_iff_eq,
    beq_iff_eq] at isPlain
  rcases isPlain with (unreserved | rfl) | rfl
  · exact toNat_lt_of_isUnreserved unreserved
  · decide
  · decide

theorem utf8EncodeChar_of_isPlain {c : Char} (isPlain : IsPlain c) :
    String.utf8EncodeChar c = [UInt8.ofNat c.toNat] := by
  have one := utf8EncodeChar_one (toNat_lt_of_isPlain isPlain)
  rwa [Char.ofNat_toNat] at one

/-- A hexadecimal digit is a plain character. -/
theorem isPlain_of_hexDigit? {c : Char} {value : Nat} (digit : hexDigit? c = some value) :
    IsPlain c := by
  rw [hexDigit?] at digit
  split at digit
  next decimal => exact .inr (.inr (.inl decimal))
  next =>
    split at digit
    next capital => exact .inr (.inl ⟨capital.1, Nat.le_trans capital.2 (by decide : 0x46 ≤ 0x5A)⟩)
    next =>
      split at digit
      next small => exact .inl ⟨small.1, Nat.le_trans small.2 (by decide : 0x66 ≤ 0x7A)⟩
      next => exact nomatch digit

/-! ## Reading what is spelled -/

namespace Spells

variable {text : List Char} {bytes : List UInt8}

/-- Nothing but plain characters and percent signs stands in a text that spells bytes. -/
theorem isPlain_of_mem (spells : Spells text bytes) {c : Char} (member : c ∈ text) :
    IsPlain c ∨ c = '%' := by
  induction spells with
  | nil => exact nomatch member
  | plain isPlain rest inductionHypothesis =>
    rcases List.mem_cons.mp member with rfl | later
    · exact .inl isPlain
    · exact inductionHypothesis later
  | triplet isHigh isLow rest inductionHypothesis =>
    rcases List.mem_cons.mp member with mark | digits
    · exact .inr mark
    · rcases List.mem_cons.mp digits with rfl | last
      · exact .inl (isPlain_of_hexDigit? isHigh)
      · rcases List.mem_cons.mp last with rfl | later
        · exact .inl (isPlain_of_hexDigit? isLow)
        · exact inductionHypothesis later

/-- **A text spells the bytes that are read out of it**, and so no others. -/
theorem percentDecode_eq (spells : Spells text bytes) : percentDecode text = bytes := by
  induction spells with
  | nil => rfl
  | @plain c isPlain text bytes rest inductionHypothesis =>
    have noMark : c ≠ '%' := by
      rintro rfl
      exact absurd (isPlain_iff.mp isPlain) (by decide)
    rw [percentDecode_cons noMark, utf8EncodeChar_of_isPlain isPlain, inductionHypothesis,
      List.singleton_append]
  | triplet isHigh isLow rest inductionHypothesis =>
    simp only [percentDecode, isHigh, isLow, inductionHypothesis]

theorem unique {others : List UInt8} (spells : Spells text bytes) (also : Spells text others) :
    others = bytes :=
  also.percentDecode_eq.symm.trans spells.percentDecode_eq

end Spells

/-! ## What is written -/

theorem spells_percentByte (byte : UInt8) {text : List Char} {bytes : List UInt8}
    (rest : Spells text bytes) : Spells (percentByte byte ++ text) (byte :: bytes) := by
  obtain ⟨high, low⟩ := hexDigit?_percentByte byte
  have written := Spells.triplet high low rest
  rwa [Nat.div_add_mod', UInt8.ofNat_toNat] at written

theorem spells_bytes (written : List UInt8) {text : List Char} {bytes : List UInt8}
    (rest : Spells text bytes) :
    Spells (written.flatMap percentByte ++ text) (written ++ bytes) := by
  induction written with
  | nil => exact rest
  | cons byte written inductionHypothesis =>
    rw [List.flatMap_cons, List.append_assoc]
    exact spells_percentByte byte inductionHypothesis

/-- **A character is written as itself, or by one triplet for each of its bytes.** -/
theorem spells_percentChar (c : Char) {text : List Char} {bytes : List UInt8}
    (rest : Spells text bytes) :
    Spells (percentChar Client.isTypedSafe c ++ text) (String.utf8EncodeChar c ++ bytes) := by
  rw [percentChar]
  split
  next safe =>
    have isPlain := isPlain_iff.mpr safe
    rw [utf8EncodeChar_of_isPlain isPlain]
    exact .plain isPlain rest
  next => exact spells_bytes (String.utf8EncodeChar c) rest

/-- **What is written for a text spells the bytes of the text.** -/
theorem spells_percentEncode (text : List Char) :
    Spells (percentEncode Client.isTypedSafe text) (encode text) := by
  induction text with
  | nil => exact .nil
  | cons c text inductionHypothesis =>
    rw [percentEncode, List.flatMap_cons, encode_cons]
    exact spells_percentChar c inductionHypothesis

end Web

/-! ## Addresses -/

namespace Client

/-- **A typed text can be read out of its address.**  Behind the base stand plain characters and
triplets only, so that neither a query nor a fragment can begin there; the bytes that they spell are
those of the typed text and of no other, and two typed texts never have the same address text. -/
theorem addressText_spells (client : Client) (typed : String) :
    ∃ text : List Char, client.addressText typed = client.base ++ String.ofList text ∧
      Spells text (encode typed.toList) ∧ '?' ∉ text ∧ '#' ∉ text ∧
      (∀ bytes, Spells text bytes →
        percentDecode text = bytes ∧ decode? bytes = some typed.toList) ∧
      ∀ other : String, client.addressText other = client.addressText typed ↔ other = typed := by
  have spells := spells_percentEncode typed.toList
  have absent {mark : Char} (strange : isTypedSafe mark = false) (noPercent : mark ≠ '%') :
      mark ∉ percentEncode isTypedSafe typed.toList := by
    intro member
    rcases spells.isPlain_of_mem member with isPlain | isPercent
    · rw [isPlain_iff, strange] at isPlain
      exact nomatch isPlain
    · exact noPercent isPercent
  refine ⟨_, rfl, spells, absent (by decide) (by decide), absent (by decide) (by decide),
    fun bytes also => ⟨also.percentDecode_eq, ?_⟩, fun other => ⟨fun same => ?_, ?_⟩⟩
  · rw [spells.unique also, decode?_encode]
  · have written := String.ofList_injective (String.append_right_inj _ |>.mp same)
    exact String.toList_inj.mp (percentEncode_injective (by decide) written)
  · rintro rfl
    rfl

end Client

end Typeahead
