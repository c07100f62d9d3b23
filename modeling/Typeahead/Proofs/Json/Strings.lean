import Typeahead.Proofs.Json.Grammar
import Typeahead.Proofs.Results
import Typeahead.Proofs.Text.Decoding

/-!
# Reading strings

The reader of strings takes the text of a string from the front of what it is
given (`scanString_sound`), and every text of a string with a closing quote
behind it is read (`scanString_complete`).  Both are proved in two steps, since
the reader joins the halves of surrogate pairs when it has all pieces.
-/

namespace Typeahead.Json

open Typeahead.Text

set_option autoImplicit false

/-! ## Pieces -/

/-- The texts of pieces, before the halves of pairs are joined. -/
inductive PiecesText : List Char → List StringPiece → Prop where
  | nil : PiecesText [] []
  | plain {c : Char} (printed : 0x20 ≤ c.toNat) (noQuote : c ≠ '"') (noEscape : c ≠ '\\')
      {text : List Char} {pieces : List StringPiece} (rest : PiecesText text pieces) :
      PiecesText (c :: text) (.char c :: pieces)
  | short {mark c : Char} (stands : shortEscape? mark = some c) {text : List Char}
      {pieces : List StringPiece} (rest : PiecesText text pieces) :
      PiecesText ('\\' :: mark :: text) (.char c :: pieces)
  | unit {digits : List Char} {code : Nat} (names : UnitText digits code) {text : List Char}
      {pieces : List StringPiece} (rest : PiecesText text pieces) :
      PiecesText ('\\' :: 'u' :: (digits ++ text)) (.unit code :: pieces)

theorem unitOf?_eq_some_iff {a b c d : Char} {code : Nat} :
    unitOf? [a, b, c, d] = some code ↔ UnitText [a, b, c, d] code := by
  constructor
  · intro read
    simp only [unitOf?, List.mapM_cons, List.mapM_nil, Option.map_eq_some_iff,
      Option.bind_eq_bind, Option.bind_eq_some_iff, Option.pure_def, Option.some.injEq] at read
    obtain ⟨_, ⟨first, hexA, _, ⟨second, hexB, _, ⟨third, hexC, _, ⟨fourth, hexD, _, rfl, rfl⟩,
      rfl⟩, rfl⟩, rfl⟩, rfl⟩ := read
    have value : valueOfDigits 16 [first, second, third, fourth] =
        ((first * 16 + second) * 16 + third) * 16 + fourth := by
      simp only [valueOfDigits, List.foldl_cons, List.foldl_nil, Nat.zero_mul, Nat.zero_add]
    rw [value]
    exact .digits hexA hexB hexC hexD
  · intro text
    cases text with
    | digits hexA hexB hexC hexD =>
        simp [unitOf?, hexA, hexB, hexC, hexD, valueOfDigits]

theorem scanPieces_sound {text : List Char} {pieces : List StringPiece} {rest : List Char}
    (scanned : scanPieces text = .ok (pieces, rest)) :
    ∃ body, text = body ++ '"' :: rest ∧ PiecesText body pieces := by
  fun_induction scanPieces text generalizing pieces with
  | case1 => exact nomatch scanned
  | case2 text =>
      obtain ⟨rfl, rfl⟩ := Prod.mk.inj (Except.ok.inj scanned)
      exact ⟨[], rfl, .nil⟩
  | case3 a b c d text code unit inductionHypothesis =>
      obtain ⟨⟨more, behind⟩, inner, same⟩ := exists_of_map_eq_ok scanned
      obtain ⟨rfl, rfl⟩ := Prod.mk.inj same
      obtain ⟨body, rfl, spelled⟩ := inductionHypothesis inner
      exact ⟨'\\' :: 'u' :: a :: b :: c :: d :: body, rfl,
        .unit (unitOf?_eq_some_iff.mp unit) spelled⟩
  | case4 => exact nomatch scanned
  | case5 mark text _ c stands inductionHypothesis =>
      obtain ⟨⟨more, behind⟩, inner, same⟩ := exists_of_map_eq_ok scanned
      obtain ⟨rfl, rfl⟩ := Prod.mk.inj same
      obtain ⟨body, rfl, spelled⟩ := inductionHypothesis inner
      exact ⟨'\\' :: mark :: body, rfl, .short stands spelled⟩
  | case6 => exact nomatch scanned
  | case7 => exact nomatch scanned
  | case8 c text noQuote _ _ allowed inductionHypothesis =>
      obtain ⟨noEscape, printed⟩ := not_or.mp allowed
      obtain ⟨⟨more, behind⟩, inner, same⟩ := exists_of_map_eq_ok scanned
      obtain ⟨rfl, rfl⟩ := Prod.mk.inj same
      obtain ⟨body, rfl, spelled⟩ := inductionHypothesis inner
      exact ⟨c :: body, rfl, .plain (Nat.le_of_not_lt printed) noQuote noEscape spelled⟩

theorem scanPieces_plain {c : Char} (printed : 0x20 ≤ c.toNat) (noQuote : c ≠ '"')
    (noEscape : c ≠ '\\') (text : List Char) :
    scanPieces (c :: text) = (scanPieces text).map fun more => (.char c :: more.1, more.2) := by
  have allowed : ¬ (c = '\\' ∨ c.toNat < 0x20) := not_or.mpr ⟨noEscape, Nat.not_lt_of_le printed⟩
  rw [scanPieces, if_neg allowed]
  · exact noQuote
  · exact fun _ _ _ _ _ escape => absurd escape noEscape
  · exact fun _ _ escape => absurd escape noEscape

theorem scanPieces_short {mark c : Char} (stands : shortEscape? mark = some c) (text : List Char) :
    scanPieces ('\\' :: mark :: text) =
      (scanPieces text).map fun more => (.char c :: more.1, more.2) := by
  rw [scanPieces, stands]
  rintro _ _ _ _ _ rfl
  exact nomatch stands

theorem scanPieces_unit {digits : List Char} {code : Nat} (names : UnitText digits code)
    (text : List Char) :
    scanPieces ('\\' :: 'u' :: (digits ++ text)) =
      (scanPieces text).map fun more => (.unit code :: more.1, more.2) := by
  cases names with
  | digits hexA hexB hexC hexD =>
      have unit := unitOf?_eq_some_iff.mpr (.digits hexA hexB hexC hexD)
      simp only [List.cons_append, List.nil_append, scanPieces, unit]

theorem scanPieces_complete {body : List Char} {pieces : List StringPiece}
    (spelled : PiecesText body pieces) (rest : List Char) :
    scanPieces (body ++ '"' :: rest) = .ok (pieces, rest) := by
  induction spelled with
  | nil => rfl
  | plain printed noQuote noEscape _ inductionHypothesis =>
      rw [List.cons_append, scanPieces_plain printed noQuote noEscape, inductionHypothesis]
      rfl
  | short stands _ inductionHypothesis =>
      rw [List.cons_append, List.cons_append, scanPieces_short stands, inductionHypothesis]
      rfl
  | unit names _ inductionHypothesis =>
      rw [List.cons_append, List.cons_append, List.append_assoc, scanPieces_unit names,
        inductionHypothesis]
      rfl

/-! ## Joining pieces -/

theorem hexDigit?_lt {c : Char} {value : Nat} (hex : hexDigit? c = some value) : value < 16 := by
  simp only [hexDigit?] at hex
  split at hex
  · injection hex
    omega
  · split at hex
    · injection hex
      omega
    · split at hex
      · injection hex
        omega
      · exact nomatch hex

/-- Four digits write a number of sixteen bits. -/
theorem UnitText.lt {digits : List Char} {code : Nat} (names : UnitText digits code) :
    code < 0x10000 := by
  cases names with
  | digits hexA hexB hexC hexD =>
      have boundA := hexDigit?_lt hexA
      have boundB := hexDigit?_lt hexB
      have boundC := hexDigit?_lt hexC
      have boundD := hexDigit?_lt hexD
      omega

theorem isHighSurrogate_iff {code : Nat} :
    isHighSurrogate code = true ↔ 0xD800 ≤ code ∧ code ≤ 0xDBFF := decide_eq_true_iff

theorem isLowSurrogate_iff {code : Nat} :
    isLowSurrogate code = true ↔ 0xDC00 ≤ code ∧ code ≤ 0xDFFF := decide_eq_true_iff

/-- A unit that is no half of a pair. -/
theorem isValidChar_of_unit {code : Nat} (bound : code < 0x10000)
    (noHigh : ¬ isHighSurrogate code = true) (noLow : ¬ isLowSurrogate code = true) :
    code.isValidChar := by
  rw [isHighSurrogate_iff] at noHigh
  rw [isLowSurrogate_iff] at noLow
  by_cases below : code < 0xD800
  · exact .inl below
  · exact .inr ⟨by omega, by omega⟩

theorem toNat_pairChar {high low : Nat} (isHigh : 0xD800 ≤ high ∧ high ≤ 0xDBFF)
    (isLow : 0xDC00 ≤ low ∧ low ≤ 0xDFFF) :
    (pairChar high low).toNat = 0x10000 + (high - 0xD800) * 0x400 + (low - 0xDC00) := by
  rw [pairChar, toNat_ofNat_of_isValidChar]
  exact .inr ⟨by omega, by omega⟩

theorem joinPieces_sound {body : List Char} {pieces : List StringPiece} {chars : List Char}
    (spelled : PiecesText body pieces) (joined : joinPieces pieces = .ok chars) :
    StringText body chars := by
  fun_induction joinPieces pieces generalizing body chars with
  | case1 =>
      obtain rfl := Except.ok.inj joined
      cases spelled with
      | nil => exact .nil
  | case2 c pieces inductionHypothesis =>
      obtain ⟨inner, more, rfl⟩ := exists_of_map_eq_ok joined
      cases spelled with
      | plain printed noQuote noEscape rest =>
          exact .plain printed noQuote noEscape (inductionHypothesis rest more)
      | short stands rest => exact .short stands (inductionHypothesis rest more)
  | case3 high low pieces isHigh isLow inductionHypothesis =>
      obtain ⟨inner, more, rfl⟩ := exists_of_map_eq_ok joined
      rw [isHighSurrogate_iff] at isHigh
      rw [isLowSurrogate_iff] at isLow
      cases spelled with
      | unit highText behind =>
          cases behind with
          | unit lowText rest =>
              have names := toNat_pairChar isHigh isLow
              exact .pair highText lowText isHigh isLow names (inductionHypothesis rest more)
  | case4 => exact nomatch joined
  | case5 => exact nomatch joined
  | case6 code low pieces noHigh noLow inductionHypothesis =>
      obtain ⟨inner, more, rfl⟩ := exists_of_map_eq_ok joined
      cases spelled with
      | unit names rest =>
          have valid := isValidChar_of_unit names.lt noHigh noLow
          rw [← toNat_ofNat_of_isValidChar valid] at names
          exact .unit names (inductionHypothesis rest more)
  | case7 => exact nomatch joined
  | case8 code pieces _ noHalf inductionHypothesis =>
      obtain ⟨inner, more, rfl⟩ := exists_of_map_eq_ok joined
      rw [Bool.or_eq_true, not_or] at noHalf
      cases spelled with
      | unit names rest =>
          have valid := isValidChar_of_unit names.lt noHalf.1 noHalf.2
          rw [← toNat_ofNat_of_isValidChar valid] at names
          exact .unit names (inductionHypothesis rest more)

/-- A character is joined from its own code point, whatever follows. -/
theorem joinPieces_unit (c : Char) (pieces : List StringPiece) :
    joinPieces (.unit c.toNat :: pieces) = (joinPieces pieces).map (c :: ·) := by
  have valid : c.toNat < 0xD800 ∨ 0xDFFF < c.toNat ∧ c.toNat < 0x110000 := c.valid
  have noHigh : ¬ isHighSurrogate c.toNat = true := by
    rw [isHighSurrogate_iff]
    omega
  have noLow : ¬ isLowSurrogate c.toNat = true := by
    rw [isLowSurrogate_iff]
    omega
  match pieces with
  | [] => simp [joinPieces, noHigh, noLow]
  | .char _ :: _ => simp [joinPieces, noHigh, noLow]
  | .unit _ :: _ => simp [joinPieces, noHigh, noLow]

theorem joinPieces_complete {body chars : List Char} (spelled : StringText body chars) :
    ∃ pieces, PiecesText body pieces ∧ joinPieces pieces = .ok chars := by
  induction spelled with
  | nil => exact ⟨[], .nil, rfl⟩
  | @plain c printed noQuote noEscape _ _ _ inductionHypothesis =>
      obtain ⟨pieces, rest, joined⟩ := inductionHypothesis
      refine ⟨.char c :: pieces, .plain printed noQuote noEscape rest, ?_⟩
      rw [joinPieces, joined]
      rfl
  | @short mark c stands _ _ _ inductionHypothesis =>
      obtain ⟨pieces, rest, joined⟩ := inductionHypothesis
      refine ⟨.char c :: pieces, .short stands rest, ?_⟩
      rw [joinPieces, joined]
      rfl
  | @unit digits c names _ _ _ inductionHypothesis =>
      obtain ⟨pieces, rest, joined⟩ := inductionHypothesis
      refine ⟨.unit c.toNat :: pieces, .unit names rest, ?_⟩
      rw [joinPieces_unit, joined]
      rfl
  | @pair _ _ high low c highText lowText isHigh isLow names _ _ _ inductionHypothesis =>
      obtain ⟨pieces, rest, joined⟩ := inductionHypothesis
      have joins : pairChar high low = c := by
        rw [pairChar, ← names, Char.ofNat_toNat]
      refine ⟨.unit high :: .unit low :: pieces, .unit highText (.unit lowText rest), ?_⟩
      rw [joinPieces, if_pos (isHighSurrogate_iff.mpr isHigh),
        if_pos (isLowSurrogate_iff.mpr isLow), joined, joins]
      rfl

/-! ## Strings -/

/-- **What is read as a string is the text of one, up to its closing quote.** -/
theorem scanString_sound {text : List Char} {value : String} {rest : List Char}
    (scanned : scanString text = .ok (value, rest)) :
    ∃ body chars, text = body ++ '"' :: rest ∧ StringText body chars ∧
      value = String.ofList chars := by
  obtain ⟨⟨pieces, behind⟩, pieced, more⟩ := exists_of_bind_eq_ok scanned
  obtain ⟨chars, joined, same⟩ := exists_of_bind_eq_ok more
  obtain ⟨rfl, rfl⟩ := Prod.mk.inj (Except.ok.inj same)
  obtain ⟨body, rfl, spelled⟩ := scanPieces_sound pieced
  exact ⟨body, chars, rfl, joinPieces_sound spelled joined, rfl⟩

/-- **Every text of a string is read.** -/
theorem scanString_complete {body chars : List Char} (spelled : StringText body chars)
    (rest : List Char) :
    scanString (body ++ '"' :: rest) = .ok (String.ofList chars, rest) := by
  obtain ⟨pieces, pieced, joined⟩ := joinPieces_complete spelled
  rw [scanString, scanPieces_complete pieced]
  simp only [bind, Except.bind, joined]
  rfl

end Typeahead.Json
