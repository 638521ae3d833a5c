import Mathlib.Algebra.Order.Field.Power
import Mathlib.Data.Int.Log
import Mathlib.Data.Rat.Floor
import Mathlib.Tactic.FieldSimp
import Mathlib.Tactic.Ring
import ConicModel.Decimal.Shortest
import ConicModel.Proofs.Float.Packing

/-!
Contract: the number nearest to a quotient depends on the quotient alone, and
a number is the nearest one to itself.

Owns:
- the rational value behind the logarithm and the division of naturals;
- invariance of rounding under a change of numerator and denominator;
- rounding of the exact value of a bit pattern.

Does not own: which decimal is written for a number.
-/

namespace ConicModel.Binary64

/-! ## The logarithm of a quotient -/

theorem natPow_eq (base power : Nat) : Nat.pow base power = base ^ power := rfl

/-- A power with an integer exponent, as a quotient of two natural powers. -/
theorem zpow_eq_div {base : ℚ} (nonzero : base ≠ 0) (power : Int) :
    base ^ power = base ^ power.toNat / base ^ (-power).toNat := by
  rw [eq_div_iff (pow_ne_zero _ nonzero), ← zpow_natCast, ← zpow_natCast,
    ← zpow_add₀ nonzero]
  congr 1
  omega

/-- Comparing a quotient with a power of two without leaving the naturals. -/
theorem two_zpow_le_div_iff {numerator denominator : Nat} (positive : 0 < denominator)
    (power : Int) :
    (2 : ℚ) ^ power ≤ (numerator : ℚ) / denominator ↔
      denominator * 2 ^ power.toNat ≤ numerator * 2 ^ (-power).toNat := by
  have below : (0 : ℚ) < (denominator : ℚ) := by exact_mod_cast positive
  rw [zpow_eq_div two_ne_zero, div_le_div_iff₀ (by positivity) below, mul_comm _ (denominator : ℚ)]
  norm_cast

/-- The logarithm of a natural number brackets it by powers of two. -/
theorem log2_bounds {number : Nat} (positive : 0 < number) :
    (2 : ℚ) ^ (number.log2 : Int) ≤ number ∧ (number : ℚ) < 2 ^ ((number.log2 : Int) + 1) := by
  have bounds := (Nat.log2_eq_iff (by omega : number ≠ 0)).mp rfl
  constructor
  · rw [zpow_natCast]
    exact_mod_cast bounds.1
  · rw [← Nat.cast_succ, zpow_natCast]
    exact_mod_cast bounds.2

/-- The integer part of the logarithm, as the rational number determines it. -/
theorem floorLog2_eq_log {numerator denominator : Nat} (above : 0 < numerator)
    (positive : 0 < denominator) :
    floorLog2 numerator denominator = Int.log 2 ((numerator : ℚ) / denominator) := by
  have quotientPositive : (0 : ℚ) < (numerator : ℚ) / denominator := by positivity
  have numeratorBounds := log2_bounds above
  have denominatorBounds := log2_bounds positive
  have upper : (numerator : ℚ) / denominator <
      (2 : ℚ) ^ ((numerator.log2 : Int) - denominator.log2 + 1) := by
    rw [div_lt_iff₀ (by positivity)]
    calc (numerator : ℚ) < 2 ^ ((numerator.log2 : Int) + 1) := numeratorBounds.2
      _ = 2 ^ ((numerator.log2 : Int) - denominator.log2 + 1) * 2 ^ (denominator.log2 : Int) := by
        rw [← zpow_add₀ two_ne_zero]
        congr 1
        omega
      _ ≤ 2 ^ ((numerator.log2 : Int) - denominator.log2 + 1) * denominator :=
        mul_le_mul_of_nonneg_left denominatorBounds.1 (by positivity)
  have lower : (2 : ℚ) ^ ((numerator.log2 : Int) - denominator.log2 - 1) ≤
      (numerator : ℚ) / denominator := by
    rw [le_div_iff₀ (by positivity)]
    calc (2 : ℚ) ^ ((numerator.log2 : Int) - denominator.log2 - 1) * denominator
        ≤ 2 ^ ((numerator.log2 : Int) - denominator.log2 - 1) *
            2 ^ ((denominator.log2 : Int) + 1) :=
          mul_le_mul_of_nonneg_left denominatorBounds.2.le (by positivity)
      _ = 2 ^ (numerator.log2 : Int) := by
        rw [← zpow_add₀ two_ne_zero]
        congr 1
        omega
      _ ≤ numerator := numeratorBounds.1
  have belowUpper := (Int.lt_zpow_iff_log_lt (b := 2) (by decide) quotientPositive).mp
    (by rw [Nat.cast_ofNat]; exact upper)
  have aboveLower := (Int.zpow_le_iff_le_log (b := 2) (by decide) quotientPositive).mp
    (by rw [Nat.cast_ofNat]; exact lower)
  have decisive := Int.zpow_le_iff_le_log (b := 2) (by decide)
    (x := (numerator.log2 : Int) - denominator.log2) quotientPositive
  rw [Nat.cast_ofNat, two_zpow_le_div_iff positive] at decisive
  unfold floorLog2
  simp only [natPow_eq]
  split
  · next fits =>
    have := decisive.mp fits
    omega
  · next fitsNot =>
    have := mt decisive.mpr fitsNot
    omega

/-! ## Rounding depends on the quotient alone -/

theorem divideToNearest_scale (numerator denominator : Nat) {factor : Nat} (positive : 0 < factor) :
    divideToNearest (numerator * factor) (denominator * factor) =
      divideToNearest numerator denominator := by
  have doubled : 2 * (numerator % denominator * factor) =
      2 * (numerator % denominator) * factor := (Nat.mul_assoc _ _ _).symm
  unfold divideToNearest
  rw [Nat.mul_div_mul_right _ _ positive, Nat.mul_mod_mul_right]
  simp only [doubled, Nat.mul_lt_mul_right positive]

/-- Two quotients of equal value are rounded alike. -/
theorem divideToNearest_congr {numerator denominator numerator' denominator' : Nat}
    (positive : 0 < denominator) (positive' : 0 < denominator')
    (same : numerator * denominator' = numerator' * denominator) :
    divideToNearest numerator denominator = divideToNearest numerator' denominator' := by
  rw [← divideToNearest_scale numerator denominator positive', same,
    Nat.mul_comm denominator denominator', divideToNearest_scale _ _ positive]

theorem divideToNearest_exact (quotient : Nat) {denominator : Nat} (positive : 0 < denominator) :
    divideToNearest (quotient * denominator) denominator = quotient := by
  unfold divideToNearest
  rw [Nat.mul_div_cancel _ positive, Nat.mul_mod_left]
  simp [positive]

/-- Two quotients of equal value have the same nearest number. -/
theorem nearestPattern_congr {numerator denominator numerator' denominator' : Nat}
    (positive : 0 < denominator) (positive' : 0 < denominator')
    (same : numerator * denominator' = numerator' * denominator) :
    nearestPattern numerator denominator = nearestPattern numerator' denominator' := by
  unfold nearestPattern
  by_cases zero : numerator = 0
  · have zero' : numerator' = 0 := by
      rw [zero, Nat.zero_mul] at same
      exact (Nat.mul_eq_zero.mp same.symm).resolve_right (by omega)
    rw [if_pos zero, if_pos zero']
  · have nonzero' : numerator' ≠ 0 := by
      rintro rfl
      rw [Nat.zero_mul] at same
      rcases Nat.mul_eq_zero.mp same with none | none <;> omega
    have value : (numerator : ℚ) / denominator = (numerator' : ℚ) / denominator' := by
      rw [div_eq_div_iff (by positivity) (by positivity)]
      exact_mod_cast same
    have log : floorLog2 numerator denominator = floorLog2 numerator' denominator' := by
      rw [floorLog2_eq_log (by omega) positive, floorLog2_eq_log (by omega) positive', value]
    rw [if_neg zero, if_neg nonzero']
    simp only [log, natPow_eq]
    generalize max leastExponent (floorLog2 numerator' denominator' - fractionBits) = exponent
    have mantissa : divideToNearest (numerator * 2 ^ (-exponent).toNat)
        (denominator * 2 ^ exponent.toNat) =
          divideToNearest (numerator' * 2 ^ (-exponent).toNat)
            (denominator' * 2 ^ exponent.toNat) := by
      apply divideToNearest_congr (by positivity) (by positivity)
      calc numerator * 2 ^ (-exponent).toNat * (denominator' * 2 ^ exponent.toNat)
          = numerator * denominator' * (2 ^ (-exponent).toNat * 2 ^ exponent.toNat) := by ring
        _ = numerator' * denominator * (2 ^ (-exponent).toNat * 2 ^ exponent.toNat) := by
          rw [same]
        _ = _ := by ring
    rw [mantissa]

/-! ## A number is nearest to itself -/

/-- The exact value of a bit pattern below infinity has a mantissa of 53 bits,
or of fewer at the least exponent, and the pattern can be computed from it. -/
theorem ofPattern_spec (pattern : Nat) :
    (Dyadic.ofPattern pattern).mantissa < 2 ^ 53 ∧
      leastExponent ≤ (Dyadic.ofPattern pattern).exponent ∧
      (2 ^ 52 ≤ (Dyadic.ofPattern pattern).mantissa ∨
        (Dyadic.ofPattern pattern).exponent = leastExponent) ∧
      ((Dyadic.ofPattern pattern).exponent - leastExponent).toNat * 2 ^ 52 +
        (Dyadic.ofPattern pattern).mantissa = pattern := by
  have split := Nat.div_add_mod pattern (2 ^ 52)
  have below := Nat.mod_lt pattern (show 0 < 2 ^ 52 by decide)
  by_cases subnormal : pattern / 2 ^ 52 = 0
  · have value : Dyadic.ofPattern pattern = ⟨pattern % 2 ^ 52, leastExponent⟩ := if_pos subnormal
    rw [value]
    refine ⟨below.trans (by decide), le_refl _, .inr rfl, ?_⟩
    dsimp only
    rw [Int.sub_self]
    omega
  · have value : Dyadic.ofPattern pattern =
        ⟨2 ^ 52 + pattern % 2 ^ 52, leastExponent + (pattern / 2 ^ 52 - 1 : Nat)⟩ :=
      if_neg subnormal
    rw [value]
    simp only [leastExponent]
    omega

theorem nearestPattern_ofPattern {pattern : Nat} (finite : pattern < infinityPattern) :
    nearestPattern (Dyadic.ofPattern pattern).numerator (Dyadic.ofPattern pattern).denominator =
      pattern := by
  obtain ⟨high, fromLeast, normal, whole⟩ := ofPattern_spec pattern
  generalize Dyadic.ofPattern pattern = value at *
  obtain ⟨mantissa, exponent⟩ := value
  unfold Dyadic.numerator Dyadic.denominator nearestPattern
  simp only [natPow_eq] at *
  by_cases zero : mantissa = 0
  · subst zero
    rw [Nat.zero_mul, if_pos rfl]
    omega
  · have positive : 0 < mantissa := by omega
    have value : ((mantissa * 2 ^ exponent.toNat : Nat) : ℚ) / (2 ^ (-exponent).toNat : Nat) =
        mantissa * 2 ^ exponent := by
      rw [zpow_eq_div two_ne_zero]
      push_cast
      ring
    have bounds := log2_bounds positive
    have log : floorLog2 (mantissa * 2 ^ exponent.toNat) (2 ^ (-exponent).toNat) =
        mantissa.log2 + exponent := by
      have mantissaPositive : (0 : ℚ) < mantissa := by exact_mod_cast positive
      have valuePositive : (0 : ℚ) < mantissa * 2 ^ exponent := by positivity
      rw [floorLog2_eq_log (by positivity) (by positivity), value]
      apply le_antisymm
      · rw [← Int.lt_add_one_iff, ← Int.lt_zpow_iff_log_lt (by decide) valuePositive,
          Nat.cast_ofNat, add_right_comm, zpow_add₀ two_ne_zero]
        gcongr
        exact bounds.2
      · rw [← Int.zpow_le_iff_le_log (by decide) valuePositive, Nat.cast_ofNat,
          zpow_add₀ two_ne_zero]
        gcongr
        exact bounds.1
    have aim : max leastExponent ((mantissa.log2 : Int) + exponent - fractionBits) = exponent := by
      unfold fractionBits
      rcases normal with low | least
      · rw [log2_normal low high]
        omega
      · have := (Nat.log2_lt zero).mpr high
        omega
    rw [if_neg (by positivity), log, aim]
    have exact : divideToNearest (mantissa * 2 ^ exponent.toNat * 2 ^ (-exponent).toNat)
        (2 ^ (-exponent).toNat * 2 ^ exponent.toNat) = mantissa := by
      rw [Nat.mul_assoc, Nat.mul_comm (2 ^ exponent.toNat)]
      exact divideToNearest_exact mantissa (by positivity)
    rw [exact]
    exact (Nat.min_eq_right (whole.trans_le finite.le)).trans whole

end ConicModel.Binary64
