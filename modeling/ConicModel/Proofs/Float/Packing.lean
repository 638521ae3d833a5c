import Mathlib.Tactic.Linarith
import Mathlib.Tactic.NormNum
import Mathlib.Tactic.Positivity
import ConicModel.Decimal.Binary64

/-!
Contract: a float is determined by its sign and the bit pattern of its
magnitude.

Owns:
- the components of a bit pattern as natural numbers;
- unpacking a bit pattern and packing it again, in both directions;
- the classes of floats by the pattern of their magnitude;
- `toFloat`, which puts sign and magnitude together again.

Does not own: arithmetic on floats, or decimals.
-/

namespace ConicModel.Binary64

open Float.Model Float.Model.UnpackedFloat

/-! ## Components of a bit pattern -/

theorem mantissa_toNat (bits : BitVec Format.binary64.numBits) :
    (unpackMantissa bits).toNat = bits.toNat % 2 ^ 52 := by
  simp [unpackMantissa, BitVec.extractLsb]

theorem exponent_toNat (bits : BitVec Format.binary64.numBits) :
    (unpackExponent bits).toNat = bits.toNat / 2 ^ 52 % 2 ^ 11 := by
  simp [unpackExponent, BitVec.extractLsb, Nat.shiftRight_eq_div_pow]

theorem mantissa_lt (bits : BitVec Format.binary64.numBits) :
    (unpackMantissa bits).toNat < 2 ^ 52 :=
  (unpackMantissa bits).isLt

theorem exponent_lt (bits : BitVec Format.binary64.numBits) :
    (unpackExponent bits).toNat < 2 ^ 11 :=
  (unpackExponent bits).isLt

/-- An exponent field of ones only is the number `2047`. -/
theorem exponent_eq_ones_iff (field : BitVec Format.binary64.exponentBits) :
    field = -1#_ ↔ field.toNat = 2047 :=
  ⟨fun same => by rw [same]; rfl, fun same => BitVec.eq_of_toNat_eq (by rw [same]; rfl)⟩

theorem bits_eq_zero_iff {width : Nat} (field : BitVec width) : field = 0#_ ↔ field.toNat = 0 :=
  ⟨fun same => by rw [same]; simp, fun same => BitVec.eq_of_toNat_eq (by rw [same]; simp)⟩

/-- A bit pattern consists of its three components. -/
theorem packComponents_components (bits : BitVec Format.binary64.numBits) :
    packComponents Format.binary64 (Sign.ofBitVec (unpackSign bits)) (unpackExponent bits)
      (unpackMantissa bits) = bits := by
  have sign : (Sign.ofBitVec (unpackSign bits)).toBitVec = unpackSign bits := by
    generalize unpackSign bits = sign
    revert sign
    decide
  unfold packComponents
  rw [sign]
  unfold unpackSign unpackExponent unpackMantissa BitVec.extractLsb
  ext index below
  grind

theorem sign_packComponents (sign : Sign) (exponent : BitVec Format.binary64.exponentBits)
    (mantissa : BitVec Format.binary64.mantissaBitsWithoutImplicit) :
    Sign.ofBitVec (unpackSign (packComponents Format.binary64 sign exponent mantissa)) = sign := by
  have field : unpackSign (packComponents Format.binary64 sign exponent mantissa) =
      sign.toBitVec := by
    unfold unpackSign packComponents BitVec.extractLsb
    ext index below
    grind
  rw [field]
  cases sign <;> rfl

/-! ## Packing what was unpacked -/

/-- The forms that unpacking gives: a finite number has a mantissa of 53 bits,
or of fewer at the least exponent. -/
def Canonical : UnpackedFloat → Prop
  | .finite _ mantissa exponent _ =>
    mantissa < 2 ^ 53 ∧ leastExponent ≤ exponent ∧ exponent ≤ 971 ∧
      (2 ^ 52 ≤ mantissa ∨ exponent = leastExponent)
  | _ => True

theorem normal_toNat (mantissa : BitVec 52) :
    (1#1 ++ mantissa).toNat = 2 ^ 52 + mantissa.toNat := by
  have below := mantissa.isLt
  simp only [BitVec.toNat_append, BitVec.toNat_ofNat]
  rw [Nat.shiftLeft_eq, ← Nat.two_pow_add_eq_or_of_lt below 1]
  norm_num

theorem canonical_unpack (bits : BitVec Format.binary64.numBits) :
    Canonical (unpack Format.binary64 bits) := by
  have mantissaBound := mantissa_lt bits
  have exponentBound := exponent_lt bits
  have bias : Format.binary64.exponentBias = 1023 := rfl
  unfold UnpackedFloat.unpack
  rw [bias]
  dsimp only
  by_cases ones : unpackExponent bits = -1#_
  · rw [if_pos ones]
    by_cases empty : unpackMantissa bits = 0#_
    · rw [if_pos empty]
      trivial
    · rw [if_neg empty]
      trivial
  · rw [if_neg ones]
    rw [exponent_eq_ones_iff] at ones
    by_cases zero : unpackExponent bits = 0#_
    · rw [if_pos zero]
      rw [bits_eq_zero_iff] at zero
      by_cases empty : unpackMantissa bits = 0#_
      · rw [dif_pos empty]
        trivial
      · rw [dif_neg empty]
        refine ⟨by omega, ?_⟩
        unfold leastExponent
        omega
    · rw [if_neg zero]
      rw [bits_eq_zero_iff] at zero
      refine ⟨?_, ?_⟩
      · rw [normal_toNat]
        omega
      · rw [normal_toNat]
        unfold leastExponent
        omega

/-- The place of the highest bit of a normal mantissa. -/
theorem log2_normal {mantissa : Nat} (low : 2 ^ 52 ≤ mantissa) (high : mantissa < 2 ^ 53) :
    mantissa.log2 = 52 :=
  (Nat.log2_eq_iff (by omega)).mpr ⟨low, high⟩

theorem log2_mul_two_pow {number : Nat} (positive : 0 < number) (power : Nat) :
    (number * 2 ^ power).log2 = number.log2 + power := by
  induction power with
  | zero => simp
  | succ power inductionHypothesis =>
    have scaled : number * 2 ^ power ≠ 0 := Nat.mul_ne_zero (by omega) (by positivity)
    rw [pow_succ', Nat.mul_left_comm, Nat.log2_two_mul scaled, inductionHypothesis]
    omega

theorem log2_subnormal {mantissa : Nat} (high : mantissa < 2 ^ 52) : mantissa.log2 < 52 := by
  by_cases zero : mantissa = 0
  · simp [zero]
  · exact (Nat.log2_lt zero).mpr high

/-- A finite form does not depend on why its mantissa is positive. -/
theorem finite_congr {sign otherSign : Sign} {mantissa other : Nat} {exponent otherExponent : Int}
    (sameSign : sign = otherSign) (sameMantissa : mantissa = other)
    (sameExponent : exponent = otherExponent) (positive : 0 < mantissa)
    (otherPositive : 0 < other) :
    UnpackedFloat.finite sign mantissa exponent positive =
      .finite otherSign other otherExponent otherPositive := by
  subst sameSign sameMantissa sameExponent
  rfl

theorem pack_finite (sign : Sign) (mantissa : Nat) (exponent : Int) (positive : 0 < mantissa) :
    UnpackedFloat.pack Format.binary64 (.finite sign mantissa exponent positive) =
      if 2 ^ 11 ≤ (exponent + (1023 : Nat) + (52 : Nat)).toNat + 1 then
        packedInfinity Format.binary64 sign
      else if mantissa.log2 + 1 = 53 then
        packComponents Format.binary64 sign
          (BitVec.ofNat _ (exponent + (1023 : Nat) + (52 : Nat)).toNat) (BitVec.ofNat _ mantissa)
      else packComponents Format.binary64 sign 0#_ (BitVec.ofNat _ mantissa) :=
  rfl

/-- Packing a normal number stores its exponent above the bias and drops its
highest mantissa bit. -/
theorem pack_normal (sign : Sign) {mantissa : Nat} {exponent : Int} (positive : 0 < mantissa)
    (low : 2 ^ 52 ≤ mantissa) (high : mantissa < 2 ^ 53) (fromLeast : leastExponent ≤ exponent)
    (toGreatest : exponent ≤ 971) :
    UnpackedFloat.pack Format.binary64 (.finite sign mantissa exponent positive) =
      packComponents Format.binary64 sign (BitVec.ofNat _ (exponent + 1075).toNat)
        (BitVec.ofNat _ mantissa) := by
  have biased : (exponent + (1023 : Nat) + (52 : Nat)).toNat = (exponent + 1075).toNat := by omega
  unfold leastExponent at fromLeast
  rw [pack_finite, biased, log2_normal low high, if_neg (by omega), if_pos rfl]

/-- Packing a subnormal number stores its mantissa as it is. -/
theorem pack_subnormal (sign : Sign) {mantissa : Nat} (positive : 0 < mantissa)
    (high : mantissa < 2 ^ 52) :
    UnpackedFloat.pack Format.binary64 (.finite sign mantissa leastExponent positive) =
      packComponents Format.binary64 sign 0#_ (BitVec.ofNat _ mantissa) := by
  have biased : (leastExponent + (1023 : Nat) + (52 : Nat)).toNat = 1 := rfl
  have small := log2_subnormal high
  rw [pack_finite, biased, if_neg (by decide), if_neg (by omega)]

theorem pack_unpack_bits {bits : BitVec Format.binary64.numBits}
    (valid : Format.binary64.Valid bits) :
    UnpackedFloat.pack Format.binary64 (unpack Format.binary64 bits) = bits := by
  have mantissaBound := mantissa_lt bits
  have exponentBound := exponent_lt bits
  have whole := packComponents_components bits
  have bias : Format.binary64.exponentBias = 1023 := rfl
  unfold UnpackedFloat.unpack
  rw [bias]
  dsimp only
  by_cases ones : unpackExponent bits = -1#_
  · rw [if_pos ones]
    by_cases empty : unpackMantissa bits = 0#_
    · rw [if_pos empty]
      rw [ones, empty] at whole
      exact whole
    · rw [if_neg empty]
      exact (valid.eq_packedNaN ones empty).symm
  · rw [if_neg ones]
    rw [exponent_eq_ones_iff] at ones
    by_cases zero : unpackExponent bits = 0#_
    · rw [if_pos zero]
      by_cases empty : unpackMantissa bits = 0#_
      · rw [dif_pos empty]
        rw [zero, empty] at whole
        exact whole
      · rw [dif_neg empty]
        have least : ((unpackExponent bits).toNat : Int) - ((1023 : Nat) + (52 : Nat)) + 1 =
            leastExponent := by
          rw [zero]
          rfl
        rw [least, pack_subnormal _ _ mantissaBound, BitVec.ofNat_toNat, BitVec.setWidth_eq,
          ← zero]
        exact whole
    · rw [if_neg zero]
      rw [bits_eq_zero_iff] at zero
      rw [pack_normal]
      · have exponentField : BitVec.ofNat Format.binary64.exponentBits
            (((unpackExponent bits).toNat : Int) - ((1023 : Nat) + (52 : Nat)) + 1075).toNat =
              unpackExponent bits := by
          apply BitVec.eq_of_toNat_eq
          rw [BitVec.toNat_ofNat]
          show _ % 2 ^ 11 = _
          omega
        have mantissaField : BitVec.ofNat Format.binary64.mantissaBitsWithoutImplicit
            (1#1 ++ unpackMantissa bits).toNat = unpackMantissa bits := by
          apply BitVec.eq_of_toNat_eq
          rw [BitVec.toNat_ofNat, normal_toNat]
          show _ % 2 ^ 52 = _
          omega
        rw [exponentField, mantissaField]
        exact whole
      · rw [normal_toNat]
        omega
      · rw [normal_toNat]
        omega
      · unfold leastExponent
        omega
      · omega

theorem pack_unpack (value : Float.Model) : Float.Model.pack value.unpack = value := by
  obtain ⟨bits, valid⟩ := value
  have mk_congr : ∀ {left right : UInt64}, left = right → ∀ leftValid rightValid,
      Float.Model.mk left leftValid = .mk right rightValid := by
    rintro _ _ rfl _ _
    rfl
  exact mk_congr (congrArg UInt64.ofBitVec (pack_unpack_bits valid)) _ _

/-- Unpacking gives back a form that is as unpacking gives them. -/
theorem unpack_pack {form : UnpackedFloat} (canonical : Canonical form) :
    (Float.Model.pack form).unpack = form := by
  show UnpackedFloat.unpack _ (UnpackedFloat.pack _ form) = form
  cases form with
  | notANumber => rfl
  | infinity sign => cases sign <;> rfl
  | zero sign => cases sign <;> rfl
  | finite sign mantissa exponent positive =>
    obtain ⟨high, fromLeast, toGreatest, normal⟩ := canonical
    by_cases low : 2 ^ 52 ≤ mantissa
    · have exponentField : (BitVec.ofNat Format.binary64.exponentBits
          (exponent + 1075).toNat).toNat = (exponent + 1075).toNat := by
        rw [BitVec.toNat_ofNat]
        show _ % 2 ^ 11 = _
        omega
      have mantissaField : (1#1 ++ BitVec.ofNat Format.binary64.mantissaBitsWithoutImplicit
          mantissa).toNat = mantissa := by
        rw [normal_toNat, BitVec.toNat_ofNat]
        omega
      unfold leastExponent at fromLeast
      rw [pack_normal sign positive low high (by unfold leastExponent; omega) toGreatest]
      unfold UnpackedFloat.unpack
      rw [if_neg, if_neg]
      · refine finite_congr (sign_packComponents sign _ _) ?_ ?_ _ _
        · rw [unpackMantissa_packComponents, mantissaField]
        · rw [unpackExponent_packComponents, exponentField]
          show _ - ((1023 : Nat) + (52 : Nat)) = exponent
          omega
      · rw [unpackExponent_packComponents, bits_eq_zero_iff, exponentField]
        omega
      · rw [unpackExponent_packComponents, exponent_eq_ones_iff, exponentField]
        omega
    · obtain rfl : exponent = leastExponent := by omega
      have mantissaField : (BitVec.ofNat Format.binary64.mantissaBitsWithoutImplicit
          mantissa).toNat = mantissa := by
        rw [BitVec.toNat_ofNat]
        show _ % 2 ^ 52 = _
        omega
      rw [pack_subnormal sign positive (by omega)]
      unfold UnpackedFloat.unpack
      rw [if_neg, if_pos, dif_neg]
      · refine finite_congr (sign_packComponents sign _ _) ?_ ?_ _ _
        · rw [unpackMantissa_packComponents, mantissaField]
        · rw [unpackExponent_packComponents]
          rfl
      · rw [unpackMantissa_packComponents, bits_eq_zero_iff, mantissaField]
        omega
      · rw [unpackExponent_packComponents]
      · rw [unpackExponent_packComponents]
        decide

/-! ## Sign and magnitude -/

theorem ofBits_toBits (value : Float) : Float.ofBits value.toBits = value := by
  obtain ⟨form⟩ := value
  exact congrArg Float.ofModel (pack_unpack form)

/-- A float is its sign together with the pattern of its magnitude. -/
theorem toFloat_magnitudePattern (value : Float) :
    toFloat (isNegative value) (magnitudePattern value) = value := by
  have below := value.toBits.toNat_lt
  have bits : (if isNegative value then Nat.pow 2 63 + magnitudePattern value
      else magnitudePattern value) = value.toBits.toNat := by
    unfold isNegative magnitudePattern
    rw [show Nat.pow 2 63 = 9223372036854775808 from rfl]
    split
    · next negative =>
      rw [decide_eq_true_eq] at negative
      omega
    · next notNegative =>
      rw [decide_eq_true_eq] at notNegative
      omega
  unfold toFloat
  rw [bits, UInt64.ofNat_toNat, ofBits_toBits]

/-- The pattern of a magnitude is its exponent field above its mantissa field. -/
theorem magnitudePattern_eq (value : Float) :
    magnitudePattern value =
      (@unpackExponent Format.binary64 value.toBits.toBitVec).toNat * 2 ^ 52 +
        (@unpackMantissa Format.binary64 value.toBits.toBitVec).toNat := by
  rw [exponent_toNat, mantissa_toNat]
  unfold magnitudePattern
  rw [show Nat.pow 2 63 = 9223372036854775808 from rfl]
  show value.toBits.toNat % _ = value.toBits.toNat / _ % _ * _ + value.toBits.toNat % _
  omega

theorem isNaN_eq (value : Float) : value.isNaN = value.toModel.unpack.isNaN := rfl

theorem isFinite_eq (value : Float) : value.isFinite = value.toModel.unpack.isFinite := rfl

/-- A float that is not undefined has a magnitude up to infinity. -/
theorem magnitudePattern_le (value : Float) (defined : value.isNaN = false) :
    magnitudePattern value ≤ infinityPattern := by
  have mantissaBound := mantissa_lt value.toBits.toBitVec
  have exponentBound := exponent_lt value.toBits.toBitVec
  rw [magnitudePattern_eq]
  show _ ≤ 2047 * 4503599627370496
  by_cases ones : @unpackExponent Format.binary64 value.toBits.toBitVec = -1#_
  · by_cases zero : @unpackMantissa Format.binary64 value.toBits.toBitVec = 0#_
    · rw [exponent_eq_ones_iff] at ones
      rw [bits_eq_zero_iff] at zero
      omega
    · rw [isNaN_eq] at defined
      change (UnpackedFloat.unpack Format.binary64 value.toBits.toBitVec).isNaN = false at defined
      unfold UnpackedFloat.unpack at defined
      rw [if_pos ones, if_neg zero] at defined
      cases defined
  · rw [exponent_eq_ones_iff] at ones
    omega

/-- A finite float has a magnitude below infinity. -/
theorem magnitudePattern_lt (value : Float) (finite : value.isFinite = true) :
    magnitudePattern value < infinityPattern := by
  have mantissaBound := mantissa_lt value.toBits.toBitVec
  have exponentBound := exponent_lt value.toBits.toBitVec
  rw [magnitudePattern_eq]
  show _ < 2047 * 4503599627370496
  by_cases ones : @unpackExponent Format.binary64 value.toBits.toBitVec = -1#_
  · rw [isFinite_eq] at finite
    change (UnpackedFloat.unpack Format.binary64 value.toBits.toBitVec).isFinite = true at finite
    unfold UnpackedFloat.unpack at finite
    rw [if_pos ones] at finite
    by_cases zero : @unpackMantissa Format.binary64 value.toBits.toBitVec = 0#_
    · rw [if_pos zero] at finite
      cases finite
    · rw [if_neg zero] at finite
      cases finite
  · rw [exponent_eq_ones_iff] at ones
    omega

end ConicModel.Binary64
