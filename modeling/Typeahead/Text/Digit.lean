/-!
# Decimal digits

Every script that writes numbers by place value has its own ten digits, and the
Unicode standard gives each ten neighbouring code points.  A digit is therefore
known by the code point of the zero of its script.
-/

namespace Typeahead.Text

set_option autoImplicit false

/-- The code points of the zeros, one for each set of decimal digits. -/
def decimalZeros : List Nat :=
  [
   0x30, 0x660, 0x6f0, 0x7c0, 0x966, 0x9e6, 0xa66, 0xae6, 0xb66, 0xbe6, 0xc66, 0xce6, 0xd66,
   0xde6, 0xe50, 0xed0, 0xf20, 0x1040, 0x1090, 0x17e0, 0x1810, 0x1946, 0x19d0, 0x1a80, 0x1a90,
   0x1b50, 0x1bb0, 0x1c40, 0x1c50, 0xa620, 0xa8d0, 0xa900, 0xa9d0, 0xa9f0, 0xaa50, 0xabf0,
   0xff10, 0x104a0, 0x10d30, 0x11066, 0x110f0, 0x11136, 0x111d0, 0x112f0, 0x11450, 0x114d0,
   0x11650, 0x116c0, 0x11730, 0x118e0, 0x11950, 0x11c50, 0x11d50, 0x11da0, 0x16a60, 0x16ac0,
   0x16b50, 0x1d7ce, 0x1d7d8, 0x1d7e2, 0x1d7ec, 0x1d7f6, 0x1e140, 0x1e2f0, 0x1e950, 0x1fbf0
  ]

/-- The value of a decimal digit of any script. -/
def decimalValue? (c : Char) : Option Nat :=
  (decimalZeros.find? fun base => base ≤ c.toNat && c.toNat < base + 10).map (c.toNat - ·)

/-- The value of an ASCII digit. -/
def asciiDigit? (c : Char) : Option Nat :=
  if 0x30 ≤ c.toNat ∧ c.toNat ≤ 0x39 then some (c.toNat - 0x30) else none

/-- The digits `0` to `9`. -/
def isAsciiDigit (c : Char) : Bool :=
  (asciiDigit? c).isSome

/-- The value of a hexadecimal digit, in either case. -/
def hexDigit? (c : Char) : Option Nat :=
  let code := c.toNat
  if 0x30 ≤ code ∧ code ≤ 0x39 then some (code - 0x30)
  else if 0x41 ≤ code ∧ code ≤ 0x46 then some (code - 0x37)
  else if 0x61 ≤ code ∧ code ≤ 0x66 then some (code - 0x57)
  else none

/-- The hexadecimal digit of a value below sixteen, letters in the case that is asked for. -/
def hexDigit (upper : Bool) (value : Nat) : Char :=
  Char.ofNat (if value < 10 then 0x30 + value else if upper then 0x37 + value else 0x57 + value)

theorem hexDigit?_hexDigit (upper : Bool) {value : Nat} (bound : value < 16) :
    hexDigit? (hexDigit upper value) = some value := by
  have all : ∀ upper : Bool, ∀ value : Fin 16,
      hexDigit? (hexDigit upper value) = some value.val := by decide
  exact all upper ⟨value, bound⟩

/-- The last `width` hexadecimal digits of a value. -/
def hexDigits (upper : Bool) : Nat → Nat → List Char
  | 0, _ => []
  | width + 1, value => hexDigits upper width (value / 16) ++ [hexDigit upper (value % 16)]

/-- The number that a list of digits writes in a base, the first digit the weightiest. -/
def valueOfDigits (base : Nat) (digits : List Nat) : Nat :=
  digits.foldl (fun value digit => value * base + digit) 0

end Typeahead.Text
