/-!
Contract: finite binary64 numbers as exact dyadic rationals, and the rounding
of an exact quotient to the nearest of them.

Owns:
- the reading of a bit pattern as `mantissa * 2 ^ exponent`;
- rounding of a quotient of natural numbers to the nearest bit pattern, with
  ties going to the even mantissa;
- the passage between bit patterns and `Float`.

Does not own: decimal digits, their notation, or the choice between several
decimals that name the same number.
-/

namespace ConicModel.Binary64

/-- Number of mantissa bits that are stored; a normal mantissa has one more. -/
def fractionBits : Nat := 52

/-- Exponent of the finest grid: every finite number is an integer multiple of
`2 ^ leastExponent`. -/
def leastExponent : Int := -1074

/-- Bit pattern of positive infinity, the least pattern above all finite ones. -/
def infinityPattern : Nat := 2047 * Nat.pow 2 fractionBits

/-- The exact value `mantissa * 2 ^ exponent` of a nonnegative finite number. -/
structure Dyadic where
  mantissa : Nat
  exponent : Int
deriving DecidableEq

def Dyadic.ofPattern (pattern : Nat) : Dyadic :=
  let biased := pattern / Nat.pow 2 fractionBits
  let fraction := pattern % Nat.pow 2 fractionBits
  if biased = 0 then
    ⟨fraction, leastExponent⟩
  else
    ⟨Nat.pow 2 fractionBits + fraction, leastExponent + (biased - 1 : Nat)⟩

def Dyadic.numerator (value : Dyadic) : Nat :=
  value.mantissa * Nat.pow 2 value.exponent.toNat

def Dyadic.denominator (value : Dyadic) : Nat :=
  Nat.pow 2 (-value.exponent).toNat

/-- `numerator / denominator` rounded to the nearest integer, a half going to
the even neighbour. -/
def divideToNearest (numerator denominator : Nat) : Nat :=
  let quotient := numerator / denominator
  let remainder := numerator % denominator
  if 2 * remainder < denominator then quotient
  else if denominator < 2 * remainder then quotient + 1
  else if quotient % 2 = 0 then quotient
  else quotient + 1

def floorLog2 (numerator denominator : Nat) : Int :=
  let estimate : Int := (Nat.log2 numerator : Int) - (Nat.log2 denominator : Int)
  if denominator * Nat.pow 2 estimate.toNat ≤ numerator * Nat.pow 2 (-estimate).toNat then
    estimate
  else estimate - 1

/-- Bit pattern of the number nearest to `numerator / denominator`.

The mantissa is rounded on the grid of its binade.  When rounding reaches the
next power of two, the sum below carries into the exponent field, which is
the right pattern; a sum past the largest finite pattern means infinity. -/
def nearestPattern (numerator denominator : Nat) : Nat :=
  if numerator = 0 then 0
  else
    let exponent := max leastExponent (floorLog2 numerator denominator - fractionBits)
    let mantissa :=
      divideToNearest (numerator * Nat.pow 2 (-exponent).toNat)
        (denominator * Nat.pow 2 exponent.toNat)
    min infinityPattern ((exponent - leastExponent).toNat * Nat.pow 2 fractionBits + mantissa)

def toFloat (negative : Bool) (pattern : Nat) : Float :=
  Float.ofBits (UInt64.ofNat (if negative then Nat.pow 2 63 + pattern else pattern))

/-- Whether the sign bit of `value` is set; it is for `-0.0`. -/
def isNegative (value : Float) : Bool :=
  Nat.pow 2 63 ≤ value.toBits.toNat

def magnitudePattern (value : Float) : Nat :=
  value.toBits.toNat % Nat.pow 2 63

def ofInt (value : Int) : Float :=
  toFloat (value < 0) (nearestPattern value.natAbs 1)

end ConicModel.Binary64
