/-!
# Bytes in four characters for three

Each character of a text of bytes is worth six bits, and four of them make three
bytes.  Characters that are worth nothing are passed over.  Equals signs fill up
the last four characters; what stands behind four that are filled up is not read.
-/

namespace Typeahead.Text

set_option autoImplicit false

/-- The six bits of a character. -/
def sixBits? (c : Char) : Option Nat :=
  let code := c.toNat
  if 'A' ≤ c ∧ c ≤ 'Z' then some (code - 0x41)
  else if 'a' ≤ c ∧ c ≤ 'z' then some (code - 0x47)
  else if '0' ≤ c ∧ c ≤ '9' then some (code + 4)
  else if c = '+' then some 62
  else if c = '/' then some 63
  else none

/-- Reads bytes from a place in a group of four characters, after which `padding` equals signs have
stood.  Of the character before the place, `kept` is the part that has made no byte yet. -/
def readBytes? (place padding kept : Nat) : List Char → Option (List UInt8)
  | [] => if place = 0 then some [] else none
  | c :: rest =>
      if c = '=' then
        if place < 2 then readBytes? place padding kept rest
        else if 4 ≤ place + padding + 1 then some []
        else readBytes? place (padding + 1) kept rest
      else
        match sixBits? c, place with
        | none, _ => readBytes? place padding kept rest
        | some bits, 0 => readBytes? 1 0 bits rest
        | some bits, 1 =>
            (readBytes? 2 0 (bits % 16) rest).map (UInt8.ofNat (kept * 4 + bits / 16) :: ·)
        | some bits, 2 =>
            (readBytes? 3 0 (bits % 4) rest).map (UInt8.ofNat (kept * 16 + bits / 4) :: ·)
        | some bits, _ => (readBytes? 0 0 0 rest).map (UInt8.ofNat (kept * 64 + bits) :: ·)

/-- The bytes that a text stands for, unless its last group is cut off. -/
def decodeBase64? (text : List Char) : Option (List UInt8) :=
  readBytes? 0 0 0 text

end Typeahead.Text
