import Typeahead.Decimal.Binary64

/-!
# The shortest decimal text of a number

A number is written with the fewest digits that read back to it, the nearest
such decimal if there are several.  The digits are found by exact arithmetic:
the reals that round to a number form an interval, and on the grid of decimals
with one, two, three, ... digits the two neighbours of the number are tested
against it.
-/

namespace Typeahead.Decimal

set_option autoImplicit false

/-- A positive decimal, `digits * 10 ^ scale`. -/
structure Scaled where
  digits : Nat
  scale : Int
  deriving DecidableEq, Repr, Inhabited

/-- Compares `a * 10 ^ i` with `b * 2 ^ j`. -/
def compareScaled (a : Nat) (i : Int) (b : Nat) (j : Int) : Ordering :=
  compare ((a * Nat.pow 10 i.toNat) <<< (-j).toNat) (b <<< j.toNat * Nat.pow 10 (-i).toNat)

namespace Binary64

/-- The gap to the number below is half the gap to the number above. -/
def narrowBelow (x : Binary64) : Bool :=
  x.magnitude % hiddenBit == 0 && decide (2 * hiddenBit ≤ x.magnitude)

/-- A decimal lies among the reals that round to the number; the two ends of this interval belong
to it when the significand is even. -/
def readsBack (x : Binary64) (decimal : Scaled) : Bool :=
  let low := if x.narrowBelow then 4 * x.significand - 1 else 4 * x.significand - 2
  let high := 4 * x.significand + 2
  let closed := x.significand % 2 == 0
  let fromLow := compareScaled decimal.digits decimal.scale low (x.exponent - 2)
  let fromHigh := compareScaled decimal.digits decimal.scale high (x.exponent - 2)
  (fromLow == .gt || (closed && fromLow == .eq)) && (fromHigh == .lt || (closed && fromHigh == .eq))

/-- The least `k` at or above the guess with the number below `10 ^ k`. -/
def decimalExponent (x : Binary64) : Nat → Int → Int
  | 0, guess => guess
  | steps + 1, guess =>
      if compareScaled 1 guess x.significand x.exponent = .gt then guess
      else x.decimalExponent steps (guess + 1)

/-- A guess at the decimal exponent that is never too large: a binary digit is worth at least
0.30102 decimal digits. -/
def decimalExponentGuess (x : Binary64) : Int :=
  ((Nat.log2 x.significand : Int) + x.exponent) * 30102 / 100000 - 1

/-- The decimal on a grid that reads back to the number, if there is one. -/
def onGrid? (x : Binary64) (scale : Int) : Option Scaled :=
  let numerator := x.significand <<< x.exponent.toNat * Nat.pow 10 (-scale).toNat
  let denominator := 1 <<< (-x.exponent).toNat * Nat.pow 10 scale.toNat
  let below := numerator / denominator
  let nearest := roundDiv numerator denominator
  let other := if nearest = below then below + 1 else below
  if x.readsBack ⟨nearest, scale⟩ then some ⟨nearest, scale⟩
  else if x.readsBack ⟨other, scale⟩ then some ⟨other, scale⟩
  else none

end Binary64

/-- Moves zeros at the end of the digits into the scale. -/
def Scaled.strip : Nat → Scaled → Scaled
  | 0, decimal => decimal
  | steps + 1, decimal =>
      if decimal.digits ≠ 0 ∧ decimal.digits % 10 = 0 then
        Scaled.strip steps ⟨decimal.digits / 10, decimal.scale + 1⟩
      else decimal

namespace Binary64

/-- The fewest digits that read back to a finite number other than zero. -/
def shortest (x : Binary64) : Scaled :=
  let top := x.decimalExponent 4 x.decimalExponentGuess
  let found := (List.range 17).findSome? fun count => x.onGrid? (top - (count + 1 : Nat))
  (found.getD ⟨x.significand <<< x.exponent.toNat * Nat.pow 5 (-x.exponent).toNat,
    min x.exponent 0⟩).strip 17

/-- The digits of a decimal with its point.  A leading digit worth `10 ^ -4` up to `10 ^ 15` is
written positionally, always with a digit behind the point; beyond that there is one digit before
the point and an exponent with a sign and at least two digits. -/
def layout (decimal : Scaled) : List Char :=
  let digits := Nat.toDigits 10 decimal.digits
  let leading : Int := digits.length + decimal.scale - 1
  if -4 ≤ leading ∧ leading < 0 then
    '0' :: '.' :: List.replicate (-leading - 1).toNat '0' ++ digits
  else if 0 ≤ leading ∧ leading < 16 then
    if 0 ≤ decimal.scale then digits ++ List.replicate decimal.scale.toNat '0' ++ ['.', '0']
    else digits.take (leading.toNat + 1) ++ '.' :: digits.drop (leading.toNat + 1)
  else
    let exponent := Nat.toDigits 10 leading.natAbs
    let fraction := if digits.length ≤ 1 then [] else '.' :: digits.drop 1
    digits.take 1 ++ fraction ++ ['e', if leading < 0 then '-' else '+'] ++
      List.replicate (2 - exponent.length) '0' ++ exponent

/-- The text of a number. -/
def text (x : Binary64) : String :=
  if x.isNaN then "nan"
  else
    let unsigned :=
      if x.isInfinite then ['i', 'n', 'f']
      else if x.magnitude = 0 then ['0', '.', '0']
      else layout x.shortest
    String.ofList (if x.negative then '-' :: unsigned else unsigned)

end Binary64

end Typeahead.Decimal
