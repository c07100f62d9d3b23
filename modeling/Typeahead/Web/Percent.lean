import Typeahead.Text.Digit
import Typeahead.Text.Utf8

/-!
# Percent encoding

A character that may not stand in a part of an address is written as the bytes
of its UTF-8 form, each byte as a percent sign and two hexadecimal digits.
-/

namespace Typeahead.Web

open Typeahead.Text

set_option autoImplicit false

/-- A byte as a percent sign and two digits. -/
def percentByte (byte : UInt8) : List Char :=
  ['%', hexDigit true (byte.toNat / 16), hexDigit true (byte.toNat % 16)]

/-- A character, encoded unless it is safe. -/
def percentChar (safe : Char → Bool) (c : Char) : List Char :=
  if safe c then [c] else (String.utf8EncodeChar c).flatMap percentByte

/-- A text with every character encoded that is not safe. -/
def percentEncode (safe : Char → Bool) (text : List Char) : List Char :=
  text.flatMap (percentChar safe)

/-- Encodes a text in which some characters are encoded already: what reads as an encoded byte is
left as it is. -/
def percentComplete (safe : Char → Bool) : List Char → List Char
  | '%' :: a :: b :: rest =>
      if (hexDigit? a).isSome && (hexDigit? b).isSome then
        '%' :: a :: b :: percentComplete safe rest
      else percentChar safe '%' ++ percentComplete safe (a :: b :: rest)
  | c :: rest => percentChar safe c ++ percentComplete safe rest
  | [] => []

/-- The bytes that an encoded text stands for.  A percent sign without two digits behind it stands
for itself. -/
def percentDecode : List Char → List UInt8
  | '%' :: a :: b :: rest =>
      match hexDigit? a, hexDigit? b with
      | some high, some low => UInt8.ofNat (high * 16 + low) :: percentDecode rest
      | _, _ => String.utf8EncodeChar '%' ++ percentDecode (a :: b :: rest)
  | c :: rest => String.utf8EncodeChar c ++ percentDecode rest
  | [] => []

/-- The text that an encoded text stands for; bytes that spell no character are replaced. -/
def percentDecodeText (text : List Char) : List Char :=
  decodeReplacing (percentDecode text)

/-- The characters that are never encoded. -/
def isUnreserved (c : Char) : Bool :=
  isAsciiDigit c || ('a' ≤ c && c ≤ 'z') || ('A' ≤ c && c ≤ 'Z') ||
    c == '-' || c == '.' || c == '_' || c == '~'

/-- The printable characters of ASCII, the space among them. -/
def isPrintableAscii (c : Char) : Bool :=
  0x20 ≤ c.toNat && c.toNat ≤ 0x7E

end Typeahead.Web
