/-!
# Blank characters

Two classes of characters count as empty space.  White space is the property of
the Unicode standard; a number in a text may have it on both ends.  The blanks of
a catalog line are white space together with the four information separators
U+001C to U+001F.  Neither class holds the zero-width characters.
-/

namespace Typeahead.Text

set_option autoImplicit false

/-- The white space of the Unicode standard. -/
def isWhiteSpace (c : Char) : Bool :=
  let code := c.toNat
  (0x09 ≤ code && code ≤ 0x0D) || code == 0x20 || code == 0x85 || code == 0xA0 ||
    code == 0x1680 || (0x2000 ≤ code && code ≤ 0x200A) || code == 0x2028 || code == 0x2029 ||
    code == 0x202F || code == 0x205F || code == 0x3000

/-- White space and the four information separators. -/
def isBlank (c : Char) : Bool :=
  isWhiteSpace c || (0x1C ≤ c.toNat && c.toNat ≤ 0x1F)

/-- Drops the characters of a class from both ends of a text. -/
def trimBy (inClass : Char → Bool) (text : List Char) : List Char :=
  ((text.dropWhile inClass).reverse.dropWhile inClass).reverse

/-- A text without the blanks on its two ends. -/
def trimBlank (text : List Char) : List Char :=
  trimBy isBlank text

/-- A text without the white space on its two ends. -/
def trimWhiteSpace (text : List Char) : List Char :=
  trimBy isWhiteSpace text

end Typeahead.Text
