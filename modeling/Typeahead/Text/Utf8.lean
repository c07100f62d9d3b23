/-!
# Reading characters out of bytes

A decoder is fed one byte at a time, so it cannot matter how the bytes were cut
into chunks.  What is kept between two bytes is the beginning of a character
whose bytes have not all come, together with the range in which its next byte
must lie; the ranges leave out overlong forms and everything past U+10FFFF.  A
byte outside its range spoils the character that was begun and is then read
afresh.  No byte is in range behind the first two bytes of a surrogate, which are
spoiled one by one.
-/

namespace Typeahead.Text

set_option autoImplicit false

/-- What a decoder finds: a character, or bytes that spell none. -/
inductive Piece where
  | char (c : Char)
  | bad
  deriving DecidableEq, Repr, Inhabited

/-- The beginning of a character. -/
structure Begun where
  /-- the bits that have come -/
  value : Nat
  /-- how many bytes are missing -/
  missing : Nat
  /-- the least value of the next byte -/
  low : Nat
  /-- the greatest value of the next byte -/
  high : Nat
  /-- how many bad pieces it leaves when no such byte comes -/
  loss : Nat := 1
  deriving DecidableEq, Repr, Inhabited

/-- The ways of spelling characters by bytes that a response can name. -/
inductive Charset where
  | utf8
  | latin1
  | ascii
  deriving DecidableEq, Repr, Inhabited

/-- The first byte of a character in UTF-8. -/
def beginUtf8 (byte : UInt8) : List Piece × Option Begun :=
  let b := byte.toNat
  if b < 0x80 then ([.char (Char.ofNat b)], none)
  else if b < 0xC2 then ([.bad], none)
  else if b < 0xE0 then ([], some { value := b - 0xC0, missing := 1, low := 0x80, high := 0xBF })
  else if b = 0xE0 then ([], some { value := 0, missing := 2, low := 0xA0, high := 0xBF })
  else if b = 0xED then ([], some { value := 0xD, missing := 2, low := 0x80, high := 0xBF })
  else if b < 0xF0 then ([], some { value := b - 0xE0, missing := 2, low := 0x80, high := 0xBF })
  else if b = 0xF0 then ([], some { value := 0, missing := 3, low := 0x90, high := 0xBF })
  else if b < 0xF4 then ([], some { value := b - 0xF0, missing := 3, low := 0x80, high := 0xBF })
  else if b = 0xF4 then ([], some { value := 4, missing := 3, low := 0x80, high := 0x8F })
  else ([.bad], none)

/-- What a character leaves that is not completed. -/
def Begun.spoiled (begun : Begun) : List Piece :=
  List.replicate begun.loss .bad

/-- The bits of two bytes with which a surrogate begins. -/
def beginsSurrogate (value : Nat) : Bool :=
  0x360 ≤ value && value < 0x380

/-- One more byte of UTF-8. -/
def stepUtf8 (state : Option Begun) (byte : UInt8) : List Piece × Option Begun :=
  match state with
  | none => beginUtf8 byte
  | some begun =>
      if begun.low ≤ byte.toNat ∧ byte.toNat ≤ begun.high then
        let value := begun.value * 64 + byte.toNat % 64
        if begun.missing ≤ 1 then ([.char (Char.ofNat value)], none)
        else if beginsSurrogate value then
          ([], some { value, missing := 1, low := 1, high := 0, loss := 2 })
        else ([], some { value, missing := begun.missing - 1, low := 0x80, high := 0xBF })
      else
        let next := beginUtf8 byte
        (begun.spoiled ++ next.1, next.2)

/-- One more byte in a character set. -/
def Charset.step (charset : Charset) (state : Option Begun) (byte : UInt8) :
    List Piece × Option Begun :=
  match charset with
  | .utf8 => stepUtf8 state byte
  | .latin1 => ([.char (Char.ofNat byte.toNat)], none)
  | .ascii => ([if byte.toNat < 0x80 then .char (Char.ofNat byte.toNat) else .bad], none)

/-- Feeds bytes to a decoder. -/
def Charset.feed (charset : Charset) : Option Begun → List UInt8 → List Piece × Option Begun
  | state, [] => ([], state)
  | state, byte :: bytes =>
      let first := charset.step state byte
      let rest := charset.feed first.2 bytes
      (first.1 ++ rest.1, rest.2)

/-- What is left when no more bytes come: a character that was begun is bad. -/
def closePieces : Option Begun → List Piece
  | none => []
  | some begun => begun.spoiled

/-- The character that stands for a piece when bad bytes are replaced by U+FFFD. -/
def Piece.replaced : Piece → Char
  | .char c => c
  | .bad => '\uFFFD'

/-- The character of a piece when bad bytes are refused. -/
def Piece.char? : Piece → Option Char
  | .char c => some c
  | .bad => none

/-- The text that bytes spell in UTF-8, bad bytes replaced. -/
def decodeReplacing (bytes : List UInt8) : List Char :=
  let fed := Charset.utf8.feed none bytes
  (fed.1 ++ closePieces fed.2).map Piece.replaced

/-- The text that bytes spell in UTF-8, if they are all good. -/
def decode? (bytes : List UInt8) : Option (List Char) :=
  let fed := Charset.utf8.feed none bytes
  (fed.1 ++ closePieces fed.2).mapM Piece.char?

/-- The bytes that spell a text in UTF-8. -/
def encode (text : List Char) : List UInt8 :=
  text.flatMap String.utf8EncodeChar

end Typeahead.Text
