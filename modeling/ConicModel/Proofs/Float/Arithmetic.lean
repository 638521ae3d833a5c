import ConicModel.Proofs.Float.Packing

/-!
Contract: the few laws of float arithmetic that hold without rounding.

Owns:
- products with one and with its opposite;
- sums with zero;
- the equality test of floats, which identifies the two zeros;
- the order of the floats that are defined.

Does not own: arithmetic that rounds.
-/

namespace ConicModel.Binary64

open Float.Model Float.Model.UnpackedFloat

/-! ## Rounding what is exact already -/

/-- Shifting out zero bits only. -/
theorem shift_scaled (mantissa shift : Nat) :
    (ExtendedMantissa.mk (mantissa * 2 ^ shift) false false >>> shift) =
      ExtendedMantissa.mk mantissa false false := by
  show Nat.repeat ExtendedMantissa.shiftRightOne shift _ = _
  induction shift generalizing mantissa with
  | zero => simp [Nat.repeat]
  | succ shift inductionHypothesis =>
    have halved := inductionHypothesis (mantissa * 2)
    rw [mul_assoc, ← pow_succ'] at halved
    rw [Nat.repeat, halved]
    simp [ExtendedMantissa.shiftRightOne]

/-- The exponent that a canonical form has is the one that rounding aims at. -/
theorem targetExponent_scaled {mantissa : Nat} {exponent : Int} (positive : 0 < mantissa)
    (high : mantissa < 2 ^ 53) (fromLeast : leastExponent ≤ exponent)
    (normal : 2 ^ 52 ≤ mantissa ∨ exponent = leastExponent) (shift : Nat) :
    Format.binary64.targetExponent
      (totalExponent (mantissa * 2 ^ shift) (exponent - shift)) = exponent := by
  have width : Format.binary64.mantissaBits = 53 := rfl
  have least : Format.binary64.minExponent = -1074 := rfl
  have log2 : (mantissa * 2 ^ shift).log2 = mantissa.log2 + shift :=
    log2_mul_two_pow positive shift
  unfold Format.targetExponent totalExponent
  rw [log2, width, least]
  unfold leastExponent at *
  rcases normal with low | atLeast
  · rw [log2_normal low high]
    omega
  · have := (Nat.log2_lt (by omega)).mpr high
    omega

/-- A canonical form that was scaled up by a power of two is rounded back to
itself. -/
theorem roundWithAccuracy_scaled (sign : Sign) {mantissa : Nat} {exponent : Int}
    (positive : 0 < mantissa) (high : mantissa < 2 ^ 53) (fromLeast : leastExponent ≤ exponent)
    (normal : 2 ^ 52 ≤ mantissa ∨ exponent = leastExponent) (shift : Nat) :
    roundWithAccuracy Format.binary64 sign (mantissa * 2 ^ shift) (exponent - shift) .exact =
      .finite sign mantissa exponent positive := by
  have first : shiftToTargetExponent Format.binary64 (mantissa * 2 ^ shift) (exponent - shift)
      .exact = (ExtendedMantissa.mk mantissa false false, exponent) := by
    have amount : (exponent - (exponent - shift)).toNat = shift := by omega
    unfold shiftToTargetExponent shiftToExponent
    rw [targetExponent_scaled positive high fromLeast normal]
    simp only [amount, ExtendedMantissa.ofMantissaAndAccuracy, shift_scaled]
    congr 1
    omega
  have second : shiftToTargetExponent Format.binary64 mantissa exponent .exact =
      (ExtendedMantissa.mk mantissa false false, exponent) := by
    have aim := targetExponent_scaled positive high fromLeast normal 0
    have unshifted := shift_scaled mantissa 0
    rw [pow_zero, mul_one] at aim unshifted
    rw [Int.natCast_zero, Int.sub_zero] at aim
    unfold shiftToTargetExponent shiftToExponent
    rw [aim]
    simp only [Int.sub_self, Int.toNat_zero, ExtendedMantissa.ofMantissaAndAccuracy, unshifted]
    congr 1
    omega
  have rounded : (ExtendedMantissa.mk mantissa false false).roundedMantissa = mantissa := rfl
  unfold roundWithAccuracy
  rw [first]
  dsimp only
  rw [rounded, second]
  exact dif_neg (Nat.ne_of_gt positive)

/-! ## Products with one -/

theorem unpack_one : (1 : Float).toModel.unpack = .finite .positive (2 ^ 52) (-52) (by decide) :=
  rfl

theorem unpack_neg_one :
    (-1 : Float).toModel.unpack = .finite .negative (2 ^ 52) (-52) (by decide) :=
  rfl

theorem canonical_unpack_float (value : Float) : Canonical value.toModel.unpack :=
  canonical_unpack _

theorem canonical_neg {form : UnpackedFloat} (canonical : Canonical form) : Canonical form.neg := by
  cases form <;> exact canonical

theorem unpack_neg (value : Float) : (-value).toModel.unpack = value.toModel.unpack.neg :=
  unpack_pack (canonical_neg (canonical_unpack_float value))

/-- A product with one in either sign only puts the signs together. -/
theorem mul_unit (sign : Sign) {form : UnpackedFloat} (canonical : Canonical form) :
    UnpackedFloat.mul Format.binary64 (.finite sign (2 ^ 52) (-52) (by decide)) form =
      match sign with
      | .positive => form
      | .negative => form.neg := by
  cases form with
  | notANumber => cases sign <;> rfl
  | infinity other => cases sign <;> cases other <;> rfl
  | zero other => cases sign <;> cases other <;> rfl
  | finite other mantissa exponent positive =>
    obtain ⟨high, fromLeast, _, normal⟩ := canonical
    have product : UnpackedFloat.mul Format.binary64
        (.finite sign (2 ^ 52) (-52) (by decide)) (.finite other mantissa exponent positive) =
          .finite (sign * other) mantissa exponent positive := by
      show roundWithAccuracy Format.binary64 (sign * other) (2 ^ 52 * mantissa)
        (-52 + exponent) .exact = _
      rw [Nat.mul_comm, show -52 + exponent = exponent - (52 : Nat) by omega]
      exact roundWithAccuracy_scaled _ positive high fromLeast normal 52
    rw [product]
    cases sign <;> cases other <;> rfl

theorem one_mul_float (value : Float) : 1 * value = value := by
  show Float.ofModel (Float.Model.pack
    (UnpackedFloat.mul Format.binary64 (1 : Float).toModel.unpack value.toModel.unpack)) = value
  rw [unpack_one, mul_unit .positive (canonical_unpack_float value), pack_unpack]

theorem neg_one_mul_float (value : Float) : -1 * value = -value := by
  show Float.ofModel (Float.Model.pack
    (UnpackedFloat.mul Format.binary64 (-1 : Float).toModel.unpack value.toModel.unpack)) =
      -value
  rw [unpack_neg_one, mul_unit .negative (canonical_unpack_float value)]
  rfl

theorem neg_neg_float (value : Float) : - -value = value := by
  have unpacked : (-value).toModel.unpack.neg = value.toModel.unpack := by
    rw [unpack_neg]
    cases value.toModel.unpack with
    | notANumber => rfl
    | infinity sign => cases sign <;> rfl
    | zero sign => cases sign <;> rfl
    | finite sign mantissa exponent positive => cases sign <;> rfl
  show Float.ofModel (Float.Model.pack (-value).toModel.unpack.neg) = value
  rw [unpacked, pack_unpack]

/-- Taking the opposite twice, by two different operations. -/
theorem neg_one_mul_neg (value : Float) : -1 * -value = value := by
  rw [neg_one_mul_float, neg_neg_float]

/-! ## Zero -/

theorem unpack_zero : (0 : Float).toModel.unpack = .zero .positive := rfl

/-- The two zeros are the forms that equal zero. -/
theorem compare_zero_iff (form : UnpackedFloat) :
    form.compare (.zero .positive) = some .eq ↔ ∃ sign, form = .zero sign := by
  constructor
  · intro equal
    cases form with
    | notANumber => cases equal
    | infinity sign => cases sign <;> cases equal
    | zero sign => exact ⟨sign, rfl⟩
    | finite sign mantissa exponent positive => cases sign <;> cases equal
  · rintro ⟨sign, rfl⟩
    rfl

theorem beq_zero_iff (value : Float) :
    (value == 0) = true ↔ ∃ sign, value.toModel.unpack = .zero sign := by
  show (value.toModel.unpack.compare (0 : Float).toModel.unpack == some .eq) = true ↔ _
  rw [unpack_zero, beq_iff_eq]
  exact compare_zero_iff _

/-- The equality test with zero accepts nothing else. -/
theorem zero_or_negZero {value : Float} (zero : (value == 0) = true) :
    value = 0 ∨ value = -0 := by
  obtain ⟨sign, form⟩ := (beq_zero_iff value).mp zero
  have packed : value = .ofModel (.pack (.zero sign)) := by
    rw [← form, pack_unpack]
  cases sign with
  | positive => exact .inl packed
  | negative => exact .inr packed

/-- Zero may be added to anything but a zero. -/
theorem zero_add_float (value : Float) (nonzero : (value == 0) = false) : 0 + value = value := by
  have notZero : ¬ ∃ sign, value.toModel.unpack = .zero sign := by
    rw [← beq_zero_iff, nonzero]
    decide
  have sum : UnpackedFloat.add Format.binary64 (.zero .positive) value.toModel.unpack =
      value.toModel.unpack := by
    cases form : value.toModel.unpack with
    | notANumber => rfl
    | infinity sign => rfl
    | zero sign => exact absurd ⟨sign, form⟩ notZero
    | finite sign mantissa exponent positive => rfl
  show Float.ofModel (Float.Model.pack (UnpackedFloat.add Format.binary64
    (0 : Float).toModel.unpack value.toModel.unpack)) = value
  rw [unpack_zero, sum, pack_unpack]

/-- The sum of zero and a zero is the positive one. -/
theorem zero_add_of_beq (value : Float) (zero : (value == 0) = true) : 0 + value = 0 := by
  obtain ⟨sign, form⟩ := (beq_zero_iff value).mp zero
  show Float.ofModel (Float.Model.pack (UnpackedFloat.add Format.binary64
    (0 : Float).toModel.unpack value.toModel.unpack)) = 0
  rw [unpack_zero, form]
  cases sign <;> rfl

/-! ## The equality test -/

theorem beq_self (value : Float) (defined : value.isNaN = false) : (value == value) = true := by
  rw [isNaN_eq] at defined
  show (value.toModel.unpack.compare value.toModel.unpack == some .eq) = true
  cases form : value.toModel.unpack with
  | notANumber =>
    rw [form] at defined
    exact absurd defined (by decide)
  | infinity sign => cases sign <;> rfl
  | zero sign => rfl
  | finite sign mantissa exponent positive =>
    have equal : (compare exponent exponent).then (compare mantissa mantissa) = .eq := by
      rw [Std.compare_self, Std.compare_self]
      rfl
    cases sign with
    | positive => exact beq_iff_eq.mpr (congrArg some equal)
    | negative => exact beq_iff_eq.mpr (congrArg (fun order : Ordering => some order.swap) equal)

/-- The undefined float does not pass the test, not even with itself. -/
theorem beq_self_iff (value : Float) : (value == value) = true ↔ value.isNaN = false := by
  refine ⟨fun same => ?_, beq_self value⟩
  change (value.toModel.unpack.compare value.toModel.unpack == some .eq) = true at same
  rw [isNaN_eq]
  cases form : value.toModel.unpack with
  | notANumber =>
    rw [form] at same
    cases same
  | _ => rfl

theorem isNaN_of_isFinite {value : Float} (finite : value.isFinite = true) :
    value.isNaN = false := by
  rw [isFinite_eq] at finite
  rw [isNaN_eq]
  cases form : value.toModel.unpack <;> rw [form] at finite <;> first | rfl | cases finite

theorem isFinite_of_beq_zero {value : Float} (zero : (value == 0) = true) :
    value.isFinite = true := by
  obtain ⟨sign, form⟩ := (beq_zero_iff value).mp zero
  rw [isFinite_eq, form]
  rfl

theorem isFinite_neg {value : Float} (finite : value.isFinite = true) :
    (-value).isFinite = true := by
  rw [isFinite_eq] at *
  rw [unpack_neg]
  cases form : value.toModel.unpack <;> rw [form] at finite <;> exact finite

/-! ## The order -/

/-- The comparison of two forms, read from the other side. -/
theorem compare_swap (left right : UnpackedFloat) :
    left.compare right = (right.compare left).map Ordering.swap := by
  cases left with
  | notANumber => cases right <;> rfl
  | infinity sign =>
    cases right with
    | notANumber => cases sign <;> rfl
    | infinity other => cases sign <;> cases other <;> rfl
    | zero other => cases sign <;> rfl
    | finite other mantissa exponent positive => cases sign <;> rfl
  | zero sign =>
    cases right with
    | notANumber => rfl
    | infinity other => cases other <;> rfl
    | zero other => rfl
    | finite other mantissa exponent positive => cases other <;> rfl
  | finite sign mantissa exponent positive =>
    cases right with
    | notANumber => cases sign <;> rfl
    | infinity other => cases sign <;> cases other <;> rfl
    | zero other => cases sign <;> rfl
    | finite other mantissa' exponent' positive' =>
      have flipped : (compare exponent exponent').then (compare mantissa mantissa') =
          ((compare exponent' exponent).then (compare mantissa' mantissa)).swap := by
        rw [Ordering.swap_then, ← Std.OrientedCmp.eq_swap, ← Std.OrientedCmp.eq_swap]
      cases sign with
      | positive =>
        cases other with
        | positive => exact congrArg some flipped
        | negative => rfl
      | negative =>
        cases other with
        | positive => rfl
        | negative => exact congrArg (fun order => some order.swap) flipped

/-- Only the undefined form cannot be compared. -/
theorem compare_defined {left right : UnpackedFloat} (leftDefined : left.isNaN = false)
    (rightDefined : right.isNaN = false) : ∃ order, left.compare right = some order := by
  cases left with
  | notANumber => cases leftDefined
  | infinity sign =>
    cases right with
    | notANumber => cases rightDefined
    | infinity other => cases sign <;> cases other <;> exact ⟨_, rfl⟩
    | _ => cases sign <;> exact ⟨_, rfl⟩
  | zero sign =>
    cases right with
    | notANumber => cases rightDefined
    | _ other => cases other <;> exact ⟨_, rfl⟩
  | finite sign mantissa exponent positive =>
    cases right with
    | notANumber => cases rightDefined
    | _ other => cases sign <;> cases other <;> exact ⟨_, rfl⟩

theorem lt_iff (left right : Float) :
    left < right ↔ left.toModel.unpack.compare right.toModel.unpack = some .lt := by
  show decide ((left.toModel.unpack.compare right.toModel.unpack == some .lt) = true) = true ↔ _
  rw [decide_eq_true_eq, beq_iff_eq]

theorem le_iff (left right : Float) :
    left ≤ right ↔
      ∃ order, left.toModel.unpack.compare right.toModel.unpack = some order ∧ order ≠ .gt := by
  show decide ((left.toModel.unpack.compare right.toModel.unpack).any Ordering.isLE = true) = true ↔
    _
  rw [decide_eq_true_eq, Option.any_eq_true]
  refine exists_congr fun order => and_congr_right fun _ => ?_
  cases order <;> decide

/-- Of two defined floats the first is at most the second, unless the second is less. -/
theorem le_of_not_lt {left right : Float} (leftDefined : left.isNaN = false)
    (rightDefined : right.isNaN = false) (notBelow : ¬ right < left) : left ≤ right := by
  rw [isNaN_eq] at leftDefined rightDefined
  obtain ⟨order, compared⟩ := compare_defined rightDefined leftDefined
  rw [lt_iff, compared] at notBelow
  rw [le_iff]
  refine ⟨order.swap, ?_, ?_⟩
  · rw [compare_swap, compared]
    rfl
  · rintro above
    rw [Ordering.swap_eq_gt] at above
    exact notBelow (congrArg some above)

/-- A float that is at most another one is not above it. -/
theorem not_lt_of_le {left right : Float} (atMost : left ≤ right) : ¬ right < left := by
  rw [lt_iff]
  rw [le_iff] at atMost
  obtain ⟨order, compared, notAbove⟩ := atMost
  intro below
  rw [compare_swap, below] at compared
  cases compared
  exact notAbove rfl

end ConicModel.Binary64
