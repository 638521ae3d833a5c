import ConicModel.Json.Reading
import ConicModel.Proofs.Decimal.Notation
import ConicModel.Proofs.Decimal.Spelling

/-!
Contract: JSON numbers read back from what is written for them.

Owns:
- whole parts, which have no leading zero;
- the texts that are read as floating numbers, and the fact that finite numbers are written so;
- the whole numbers that stay whole.

Does not own: where a number ends inside of a larger text.
-/

namespace ConicModel

/-! ## Whole parts -/

theorem digitChar_ne_zero {digit : Nat} (nonzero : digit ≠ 0) (small : digit < 10) :
    Nat.digitChar digit ≠ '0' := by
  have each : ∀ digit < 10, digit ≠ 0 → Nat.digitChar digit ≠ '0' := by decide
  exact each digit small nonzero

/-- The digits of a number other than zero do not begin with a zero. -/
theorem decimalDigits_head (number : Nat) (nonzero : number ≠ 0) :
    ∀ character ∈ (decimalDigits number).head?, character ≠ '0' := by
  induction number using Nat.strong_induction_on with
  | _ number inductionHypothesis =>
    unfold decimalDigits at *
    rw [Nat.toDigits_eq_if (by decide)]
    split
    · next small =>
      rintro character ⟨⟩
      exact digitChar_ne_zero nonzero small
    · next large =>
      have shorter := inductionHypothesis (number / 10) (by omega) (by omega)
      rwa [List.head?_append_of_ne_nil _ Nat.toDigits_ne_nil]

namespace Json

/-- A single digit, or digits that do not begin with a zero, form a whole part. -/
theorem isWholePart_of_head {digits : List Char} (filled : digits ≠ [])
    (isDigits : ∀ character ∈ digits, character.isDigit = true)
    (leading : digits.length = 1 ∨ ∀ character ∈ digits.head?, character ≠ '0') :
    isWholePart digits = true := by
  unfold isWholePart
  split
  · exact absurd rfl filled
  · rfl
  · next others notSingle =>
    rcases leading with single | leading
    · exact absurd (List.length_eq_zero_iff.mp (Nat.succ.inj single)) notSingle
    · exact absurd rfl (leading '0' rfl)
  · exact List.all_eq_true.mpr isDigits

theorem isDigit_of_isWholePart {digits : List Char} (whole : isWholePart digits = true) :
    ∀ character ∈ digits, character.isDigit = true := by
  unfold isWholePart at whole
  split at whole
  · cases whole
  · exact List.forall_mem_singleton.mpr rfl
  · cases whole
  · exact List.all_eq_true.mp whole

theorem isWholePart_decimalDigits (number : Nat) : isWholePart (decimalDigits number) = true := by
  refine isWholePart_of_head (decimalDigits_ne_nil number) (fun _ => isDigit_of_mem_decimalDigits) ?_
  by_cases zero : number = 0
  · exact .inl (by rw [zero]; rfl)
  · exact .inr (decimalDigits_head number zero)

/-! ## Floating numbers -/

/-- What makes an unsigned number floating: a point with a digit behind it, or a power. -/
inductive Continues : List Char → Prop where
  | point (digit : Char) (isDigit : digit.isDigit = true) (rest : List Char) :
      Continues ('.' :: digit :: rest)
  | power (rest : List Char) : Continues ('e' :: rest)

def IsFloating (text : List Char) : Prop :=
  ∃ whole rest, text = whole ++ rest ∧ isWholePart whole = true ∧ Continues rest

theorem IsFloating.of_point {whole fraction : List Char} (isWhole : isWholePart whole = true)
    (pointed : ∃ digit ∈ fraction.head?, digit.isDigit = true) :
    IsFloating (whole ++ '.' :: fraction) := by
  obtain ⟨digit, leading, isDigit⟩ := pointed
  obtain ⟨others, rfl⟩ := List.head?_eq_some_iff.mp leading
  exact ⟨whole, _, rfl, isWhole, .point digit isDigit others⟩

theorem exists_leading {digits : List Char} (filled : digits ≠ [])
    (isDigits : ∀ character ∈ digits, character.isDigit = true) :
    ∃ digit ∈ digits.head?, digit.isDigit = true := by
  obtain ⟨digit, others, rfl⟩ := List.exists_cons_of_ne_nil filled
  exact ⟨digit, rfl, isDigits digit List.mem_cons_self⟩

section Layout

variable (layout : NumberLayout) {digits : List Char} (filled : digits ≠ [])
  (isDigits : ∀ character ∈ digits, character.isDigit = true)
include filled isDigits

theorem isFloating_scientific (power : Int) : IsFloating (layout.scientific digits power) := by
  unfold NumberLayout.scientific
  match digits, filled, isDigits with
  | [first], _, isDigits =>
    exact ⟨[first], _, rfl, isWholePart_of_head (List.cons_ne_nil _ _) isDigits (.inl rfl), .power _⟩
  | first :: second :: others, _, isDigits =>
    obtain ⟨firstDigit, otherDigits⟩ := List.forall_mem_cons.mp isDigits
    have single : isWholePart [first] = true :=
      isWholePart_of_head (List.cons_ne_nil _ _) (by simpa using firstDigit) (.inl rfl)
    exact .of_point single ⟨second, rfl, otherDigits second List.mem_cons_self⟩

theorem isFloating_positional (keepsPoint : layout.keepsPoint = true)
    (leading : ∀ character ∈ digits.head?, character ≠ '0') (exponent : Int) :
    IsFloating (layout.positional digits exponent (exponent + digits.length - 1)) := by
  have length : 0 < digits.length := List.length_pos_iff.mpr filled
  unfold NumberLayout.positional
  rw [keepsPoint]
  split
  · refine .of_point (isWholePart_of_head ?_ ?_ (.inr ?_)) ⟨'0', rfl, rfl⟩
    · exact List.append_ne_nil_of_left_ne_nil filled _
    · exact List.forall_mem_append.mpr ⟨isDigits, isDigit_zeros _⟩
    · rwa [List.head?_append_of_ne_nil _ filled]
  · split
    · have place : (exponent + digits.length - 1).toNat + 1 < digits.length := by omega
      refine .of_point (isWholePart_of_head ?_ ?_ (.inr ?_)) (exists_leading ?_ ?_)
      · rw [Ne, List.take_eq_nil_iff]
        simp [filled]
      · exact fun character member => isDigits character (List.mem_of_mem_take member)
      · rwa [List.head?_take, if_neg (Nat.succ_ne_zero _)]
      · rw [Ne, List.drop_eq_nil_iff]
        exact Nat.not_le_of_lt place
      · exact fun character member => isDigits character (List.mem_of_mem_drop member)
    · have single : isWholePart ['0'] = true := rfl
      exact .of_point single (exists_leading (List.append_ne_nil_of_right_ne_nil _ filled)
        (List.forall_mem_append.mpr ⟨isDigit_zeros _, isDigits⟩))

end Layout

/-- With a layout that keeps the point, every number is written as a floating one. -/
theorem isFloating_writeDecimal {layout : NumberLayout} (keepsPoint : layout.keepsPoint = true)
    (decimal : Decimal) : IsFloating (layout.writeDecimal decimal) := by
  have filled := decimalDigits_ne_nil decimal.digits
  have isDigits : ∀ character ∈ decimalDigits decimal.digits, character.isDigit = true :=
    fun _ => isDigit_of_mem_decimalDigits
  unfold NumberLayout.writeDecimal
  split
  · have single : isWholePart ['0'] = true := rfl
    exact .of_point single ⟨'0', rfl, rfl⟩
  · next nonzero =>
    dsimp only
    split
    · exact isFloating_scientific layout filled isDigits _
    · exact isFloating_positional layout filled isDigits keepsPoint
        (decimalDigits_head _ nonzero) _

/-- A text of digits is not one that begins with a minus sign. -/
theorem readNumeral_signed {whole : List Char} (isWhole : isWholePart whole = true)
    (rest : List Char) (negative : Bool) :
    readNumeral ((if negative then ['-'] else []) ++ (whole ++ rest)) =
      readUnsigned negative (whole ++ rest) := by
  cases negative with
  | true => rfl
  | false =>
    show readNumeral (whole ++ rest) = _
    unfold readNumeral
    split
    · next others same =>
      cases whole with
      | nil => cases isWhole
      | cons first whole =>
        obtain rfl : first = '-' := (List.cons.inj same).1
        have digit := isDigit_of_isWholePart isWhole '-' List.mem_cons_self
        exact absurd digit (by decide)
    · rfl

/-- A floating number, with or without a sign, is read as the number nearest to it. -/
theorem readNumeral_of_isFloating {text : List Char} (floating : IsFloating text)
    {decimal : Decimal} (read : Numeral.readDecimal text = some decimal)
    (finite : decimal.pattern ≠ Binary64.infinityPattern) (negative : Bool) :
    readNumeral ((if negative then ['-'] else []) ++ text) =
      some (number (Binary64.toFloat negative decimal.pattern)) := by
  obtain ⟨whole, rest, rfl, isWhole, continued⟩ := floating
  have isDigits := isDigit_of_isWholePart isWhole
  have ends : ∀ character ∈ rest.head?, character.isDigit = false := by
    cases continued <;> (rintro character ⟨⟩; rfl)
  have taken := (takeRun_append isDigits ends).1
  have longer : ¬ whole.length = (whole ++ rest).length := by
    cases continued <;> simp
  have pointed : ¬ (rest.head? = some '.' ∧ (Numeral.splitFraction rest).1 = []) := by
    cases continued with
    | point digit isDigit others =>
      rintro ⟨-, none⟩
      simp [Numeral.splitFraction, isDigit] at none
    | power others =>
      rintro ⟨point, -⟩
      cases point
  rw [readNumeral_signed isWhole]
  unfold readUnsigned
  simp only [taken, isWhole, List.drop_left, longer, read, finite]
  simp [pointed]

/-- The written form of a finite number is its sign and a floating number that reads back. -/
theorem write_of_isFinite {value : Float} (finite : value.isFinite = true) :
    ∃ text decimal, NumberLayout.interchange.write value =
        (if Binary64.isNegative value then ['-'] else []) ++ text ∧ IsFloating text ∧
      Numeral.readDecimal text = some decimal ∧
      decimal.pattern = Binary64.magnitudePattern value := by
  have below := Binary64.magnitudePattern_lt value finite
  have named := Decimal.pattern_shortest NumberLayout.interchange.tie below
  obtain ⟨decimal, read, same⟩ := Numeral.readDecimal_writeDecimal NumberLayout.interchange
    (Decimal.shortest NumberLayout.interchange.tie (Binary64.magnitudePattern value))
    fun nonzero => Decimal.exponent_lt_of_pattern nonzero (by rwa [named])
  refine ⟨_, decimal, ?_, isFloating_writeDecimal rfl _, read, same.trans named⟩
  unfold NumberLayout.write
  rw [Binary64.isNaN_of_isFinite finite]
  simp only [Bool.false_eq_true, if_false, if_neg (Nat.ne_of_lt below)]

/-- A finite number reads back, bit for bit. -/
theorem readNumeral_write {value : Float} (finite : value.isFinite = true) :
    readNumeral (NumberLayout.interchange.write value) = some (number value) := by
  obtain ⟨text, decimal, written, floating, read, same⟩ := write_of_isFinite finite
  have below := Binary64.magnitudePattern_lt value finite
  rw [written, readNumeral_of_isFloating floating read (by omega), same,
    Binary64.toFloat_magnitudePattern]

/-! ## Whole numbers -/

/-- Whole numbers that fit into 64 bits, with a sign or without. -/
def Fits (value : Int) : Prop :=
  -2 ^ 63 ≤ value ∧ value < 2 ^ 64

theorem readNumeral_integerChars {value : Int} (fits : Fits value) :
    readNumeral (integerChars value) = some (integer value) := by
  have isWhole := isWholePart_decimalDigits value.natAbs
  have isDigits := isDigit_of_isWholePart isWhole
  have taken : (decimalDigits value.natAbs ++ []).takeWhile Char.isDigit =
      decimalDigits value.natAbs := (takeRun_append isDigits (by simp)).1
  have signed := readNumeral_signed isWhole [] (decide (value < 0))
  rw [List.append_nil] at taken signed
  obtain ⟨low, high⟩ := fits
  have written : integerChars value =
      (if decide (value < 0) = true then ['-'] else []) ++ decimalDigits value.natAbs := by
    unfold integerChars
    simp only [decide_eq_true_eq]
  rw [written, signed]
  unfold readUnsigned
  simp only [taken, isWhole, List.drop_length, digitsValue_decimalDigits]
  have whole : (if value < 0 then -(value.natAbs : Int) else value.natAbs) = value := by
    split <;> omega
  have size : value.natAbs < Nat.pow 2 64 ∧ (value < 0 → value.natAbs ≤ Nat.pow 2 63) := by
    simp only [Nat.pow_eq]
    omega
  have notMinusZero : ¬ (value < 0 ∧ value.natAbs = 0) := by omega
  simp only [decide_eq_true_eq, whole, if_pos size, if_neg notMinusZero]
  rfl

/-! ## The characters of numbers -/

theorem hasDecimals_isNumeralChar : Numeral.HasDecimals isNumeralChar where
  digit := by
    intro character digit
    unfold isNumeralChar
    rw [digit]
    rfl
  mark := List.all_eq_true.mp (by decide)

theorem isNumeralChar_write {value : Float} (finite : value.isFinite = true) :
    ∀ character ∈ NumberLayout.interchange.write value, isNumeralChar character = true := by
  obtain ⟨text, decimal, written, -, read, -⟩ := write_of_isFinite finite
  rw [written, List.forall_mem_append]
  refine ⟨?_, Numeral.accepts_of_readDecimal hasDecimals_isNumeralChar read⟩
  apply List.all_eq_true.mp
  split <;> decide

theorem isNumeralChar_integerChars (value : Int) :
    ∀ character ∈ integerChars value, isNumeralChar character = true := by
  unfold integerChars
  rw [List.forall_mem_append]
  refine ⟨?_, fun _ member =>
    hasDecimals_isNumeralChar.digit (isDigit_of_mem_decimalDigits member)⟩
  apply List.all_eq_true.mp
  split <;> decide

end Json

end ConicModel
