import ConicModel.Decimal.Binary64

/-!
Contract: the decimal that names a finite binary64 number with the fewest
digits, and the number that a decimal names.

Owns:
- `Decimal`, an exact `digits * 10 ^ exponent`;
- rounding of a decimal to the nearest bit pattern;
- the search for the coarsest power of ten on which some neighbour of a number
  still reads back as that number;
- the two ways to choose between equally near neighbours.

Does not own: how digits are laid out in text.
-/

namespace ConicModel

/-- The exact nonnegative value `digits * 10 ^ exponent`. -/
structure Decimal where
  digits : Nat
  exponent : Int
deriving DecidableEq

namespace Decimal

/-- Bit pattern of the number nearest to the decimal.

The first two branches settle decimals far outside the range of finite
numbers, so that no huge power of ten is ever computed: from `10 ^ 400` on the
nearest number is infinity, and below `2 ^ (-1075)` it is zero. -/
def pattern (decimal : Decimal) : Nat :=
  if decimal.digits = 0 then 0
  else if 400 ≤ decimal.exponent then Binary64.infinityPattern
  else if decimal.exponent + Nat.log2 decimal.digits + 1 ≤ Binary64.leastExponent - 2 then 0
  else
    Binary64.nearestPattern (decimal.digits * Nat.pow 10 decimal.exponent.toNat)
      (Nat.pow 10 (-decimal.exponent).toNat)

def exact (value : Binary64.Dyadic) : Decimal :=
  if 0 ≤ value.exponent then
    ⟨value.mantissa * Nat.pow 2 value.exponent.toNat, 0⟩
  else
    ⟨value.mantissa * Nat.pow 5 (-value.exponent).toNat, value.exponent⟩

/-- Which of two equally near decimals is taken. -/
inductive Tie where
  /-- The larger one. -/
  | up
  /-- The one whose last digit is even. -/
  | even
deriving DecidableEq

/-- Whether the larger neighbour is taken, when the smaller one has the digits
`below`. -/
def Tie.takesLarger (tie : Tie) (below : Nat) : Bool :=
  match tie with
  | .up => true
  | .even => below % 2 == 1

/-- The neighbours of `value` among the multiples of `10 ^ exponent`, the
nearer one first. -/
def neighbours (tie : Tie) (value : Binary64.Dyadic) (exponent : Int) : List Decimal :=
  let numerator := value.numerator * Nat.pow 10 (-exponent).toNat
  let denominator := value.denominator * Nat.pow 10 exponent.toNat
  let below := numerator / denominator
  let remainder := numerator % denominator
  if denominator < 2 * remainder ∨ (denominator = 2 * remainder ∧ tie.takesLarger below) then
    [⟨below + 1, exponent⟩, ⟨below, exponent⟩]
  else [⟨below, exponent⟩, ⟨below + 1, exponent⟩]

/-- Goes down from `10 ^ exponent` until a neighbour of `value` reads back as
`target`; when `steps` run out, the exact decimal is taken. -/
def search (tie : Tie) (target : Nat) (value : Binary64.Dyadic) : Nat → Int → Decimal
  | 0, _ => exact value
  | steps + 1, exponent =>
    match (neighbours tie value exponent).find? (fun decimal => decimal.pattern == target) with
    | some decimal => decimal
    | none => search tie target value steps (exponent - 1)

/-- A power of ten above a value whose binary logarithm has integer part
`log`: `30103 / 100000` is just above the decimal logarithm of two, and the
two added steps cover both rounding directions. -/
def powerAbove (log : Int) : Int :=
  Int.fdiv (log * 30103) 100000 + 2

/-- The decimal with the fewest digits among those that read back as the
finite number with bit pattern `target`; the nearest of them. -/
def shortest (tie : Tie) (target : Nat) : Decimal :=
  if target = 0 then ⟨0, 0⟩
  else
    let value := Binary64.Dyadic.ofPattern target
    let top := powerAbove (Binary64.floorLog2 value.numerator value.denominator)
    search tie target value (top - min value.exponent 0 + 1).toNat top

end Decimal

end ConicModel
