/-!
# Binary floating point numbers of 64 bits

A number is kept as its bits: a sign, eleven bits of exponent and 52 bits of
fraction.  All arithmetic on it is exact arithmetic on the natural numbers and
the rationals: a finite number is read as `significand * 2 ^ exponent`, and a
quotient of naturals is brought to the nearest number, an exact tie going to the
even neighbour.
-/

namespace Typeahead.Decimal

set_option autoImplicit false

/-- A binary floating point number of 64 bits. -/
structure Binary64 where
  bits : UInt64
  deriving DecidableEq, Repr, Inhabited

namespace Binary64

/-- The bit of the sign. -/
def signBit : Nat := 0x8000000000000000

/-- The bit behind the fraction, which is not kept for most numbers. -/
def hiddenBit : Nat := 0x10000000000000

/-- The bits of infinity, without the sign. -/
def infinityBits : Nat := 0x7FF0000000000000

/-- The number with a given sign and given bits below the sign. -/
def ofSign (negative : Bool) (magnitude : Nat) : Binary64 :=
  ⟨UInt64.ofNat (magnitude + if negative then signBit else 0)⟩

def zero : Binary64 := ⟨0⟩

def infinity (negative : Bool) : Binary64 := ofSign negative infinityBits

def nan : Binary64 := ofSign false (infinityBits + 0x8000000000000)

/-- The sign bit is set. -/
def negative (x : Binary64) : Bool := decide (signBit ≤ x.bits.toNat)

/-- The bits below the sign; they grow with the absolute value. -/
def magnitude (x : Binary64) : Nat := x.bits.toNat % signBit

def isNaN (x : Binary64) : Bool := decide (infinityBits < x.magnitude)

def isInfinite (x : Binary64) : Bool := x.magnitude == infinityBits

def isFinite (x : Binary64) : Bool := decide (x.magnitude < infinityBits)

/-- The significand of a finite number; the numbers below `2 ^ -1022` have no hidden bit. -/
def significand (x : Binary64) : Nat :=
  if x.magnitude < hiddenBit then x.magnitude else hiddenBit + x.magnitude % hiddenBit

/-- The exponent of a finite number. -/
def exponent (x : Binary64) : Int :=
  if x.magnitude < hiddenBit then -1074 else (x.magnitude / hiddenBit : Nat) - 1075

/-- The value as a rational.  An infinity counts as the power of two next to the finite numbers,
so that it lies outside them on its side; what is no number counts as zero. -/
def value (x : Binary64) : Rat :=
  let absolute : Rat :=
    if x.isNaN then 0
    else if x.isInfinite then ((1 <<< 1024 : Nat) : Rat)
    else if 0 ≤ x.exponent then ((x.significand <<< x.exponent.toNat : Nat) : Rat)
    else mkRat x.significand (1 <<< (-x.exponent).toNat)
  if x.negative then -absolute else absolute

/-- A finite number without a fractional part, as an integer. -/
def toInt? (x : Binary64) : Option Int :=
  if x.isFinite && x.value.den == 1 then some x.value.num else none

end Binary64

/-- The nearest integer to a quotient, the even one of two that are equally near. -/
def roundDiv (numerator denominator : Nat) : Nat :=
  let quotient := numerator / denominator
  let twice := 2 * (numerator % denominator)
  if twice < denominator then quotient
  else if denominator < twice then quotient + 1
  else if quotient % 2 = 0 then quotient else quotient + 1

/-- The nearest integer to a rational, the even one of two that are equally near. -/
def roundRat (value : Rat) : Int :=
  let absolute : Int := roundDiv value.num.natAbs value.den
  if value.num < 0 then -absolute else absolute

namespace Binary64

/-- The exponent that gives a positive quotient a significand of 53 bits, or the least exponent. -/
def scaleOf (numerator denominator : Nat) : Int :=
  let guess : Int := (Nat.log2 numerator : Int) - Nat.log2 denominator - 52
  let small : Bool := numerator <<< (-guess).toNat < hiddenBit * denominator <<< guess.toNat
  max (if small then guess - 1 else guess) (-1074)

/-- The number nearest to a quotient of naturals.  A significand that rounds up to the next power
of two carries into the exponent by itself. -/
def ofRatio (negative : Bool) (numerator denominator : Nat) : Binary64 :=
  if numerator = 0 then ofSign negative 0
  else
    let scale := scaleOf numerator denominator
    let rounded :=
      roundDiv (numerator <<< (-scale).toNat) (denominator <<< scale.toNat)
    ofSign negative (min infinityBits ((scale + 1074).toNat * hiddenBit + rounded))

/-- The number nearest to `digits * 10 ^ scale`.  What has more than 310 digits before the point
is past the finite numbers, and what begins after 330 zeros behind the point is next to zero. -/
def ofDecimal (negative : Bool) (digits : Nat) (scale : Int) : Binary64 :=
  let leading : Int := (Nat.toDigits 10 digits).length + scale
  if digits = 0 then ofSign negative 0
  else if 310 < leading then infinity negative
  else if leading < -330 then ofSign negative 0
  else ofRatio negative (digits * Nat.pow 10 scale.toNat) (Nat.pow 10 (-scale).toNat)

/-- The number nearest to a rational. -/
def ofRat (value : Rat) : Binary64 :=
  ofRatio (decide (value < 0)) value.num.natAbs value.den

/-- The number nearest to an integer. -/
def ofInt (n : Int) : Binary64 :=
  ofRatio (decide (n < 0)) n.natAbs 1

end Binary64

end Typeahead.Decimal
