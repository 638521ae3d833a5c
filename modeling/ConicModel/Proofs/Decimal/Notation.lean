import ConicModel.Decimal.Numeral
import ConicModel.Proofs.Decimal.Rounding
import ConicModel.Proofs.Float.Arithmetic

/-!
Contract: a number that was written reads back as the same number, bit for
bit, in every layout.

Owns:
- the decimal that is written for a number, which names that number;
- reading of the notations with a point and with a power of ten;
- the characters that written numbers consist of.

Does not own: numbers inside of larger texts.
-/

namespace ConicModel

/-! ## The decimal of a number -/

namespace Decimal

open Binary64

theorem pattern_of_positive {decimal : Decimal} (nonzero : decimal.digits ≠ 0)
    (small : decimal.exponent < 400)
    (large : leastExponent - 2 < decimal.exponent + Nat.log2 decimal.digits + 1) :
    decimal.pattern = nearestPattern (decimal.digits * 10 ^ decimal.exponent.toNat)
      (10 ^ (-decimal.exponent).toNat) := by
  unfold pattern
  rw [if_neg nonzero, if_neg (by omega), if_neg (by omega)]
  rfl

/-- Zeros at the end of the digits do not change the number. -/
theorem pattern_shift {digits shift : Nat} {exponent : Int} (nonneg : -1 ≤ exponent)
    (small : exponent + shift < 400) :
    pattern ⟨digits * 10 ^ shift, exponent⟩ = pattern ⟨digits, exponent + shift⟩ := by
  by_cases zero : digits = 0
  · unfold pattern
    rw [if_pos zero, if_pos (by rw [zero, Nat.zero_mul])]
  · have scaled : digits * 10 ^ shift ≠ 0 := Nat.mul_ne_zero zero (by positivity)
    rw [pattern_of_positive scaled (by dsimp only; omega) (by dsimp only [leastExponent]; omega),
      pattern_of_positive zero small (by dsimp only [leastExponent]; omega)]
    apply nearestPattern_congr (by positivity) (by positivity)
    dsimp only
    have powers : shift + exponent.toNat + (-(exponent + shift)).toNat =
        (exponent + shift).toNat + (-exponent).toNat := by omega
    calc digits * 10 ^ shift * 10 ^ exponent.toNat * 10 ^ (-(exponent + shift)).toNat
        = digits * 10 ^ (shift + exponent.toNat + (-(exponent + shift)).toNat) := by
          rw [pow_add, pow_add]
          ring
      _ = digits * 10 ^ ((exponent + shift).toNat + (-exponent).toNat) := by rw [powers]
      _ = digits * 10 ^ (exponent + shift).toNat * 10 ^ (-exponent).toNat := by
          rw [pow_add]
          ring

/-- The exact decimal of a number names it. -/
theorem pattern_exact {target : Nat} (positive : 0 < target) (finite : target < infinityPattern) :
    (exact (Dyadic.ofPattern target)).pattern = target := by
  have nearest := nearestPattern_ofPattern finite
  obtain ⟨-, fromLeast, -, whole⟩ := ofPattern_spec target
  generalize Dyadic.ofPattern target = value at *
  obtain ⟨mantissa, exponent⟩ := value
  have nonzero : mantissa ≠ 0 := by
    rintro rfl
    unfold Dyadic.numerator nearestPattern at nearest
    rw [Nat.zero_mul, if_pos rfl] at nearest
    omega
  unfold leastExponent at fromLeast
  unfold exact
  simp only [Dyadic.numerator, Dyadic.denominator, natPow_eq] at *
  split
  · next nonneg =>
    rw [pattern_of_positive (Nat.mul_ne_zero nonzero (by positivity)) (by dsimp only; omega)
      (by dsimp only [leastExponent]; omega)]
    have none : (-exponent).toNat = 0 := by omega
    rw [none] at nearest
    rw [Int.toNat_zero, Int.neg_zero, Int.toNat_zero, pow_zero, Nat.mul_one]
    exact nearest
  · next negative =>
    obtain ⟨places, rfl⟩ : ∃ places : Nat, exponent = -places :=
      ⟨(-exponent).toNat, by omega⟩
    have digits : mantissa * 5 ^ (- -(places : Int)).toNat ≠ 0 :=
      Nat.mul_ne_zero nonzero (by positivity)
    have log : places ≤ (mantissa * 5 ^ (- -(places : Int)).toNat).log2 := by
      rw [Nat.le_log2 digits]
      calc 2 ^ places ≤ 5 ^ places := Nat.pow_le_pow_left (by decide) _
        _ ≤ mantissa * 5 ^ places := Nat.le_mul_of_pos_left _ (by omega)
        _ = _ := by simp
    rw [pattern_of_positive digits (by dsimp only; omega) (by dsimp only [leastExponent]; omega)]
    rw [← nearest]
    apply nearestPattern_congr (by positivity) (by positivity)
    have none : (-(places : Int)).toNat = 0 := by omega
    have all : (- -(places : Int)).toNat = places := by omega
    dsimp only
    rw [none, all, pow_zero, pow_zero, Nat.mul_one, Nat.mul_one, Nat.mul_assoc, ← Nat.mul_pow]

theorem pattern_search (tie : Tie) {target : Nat} {value : Binary64.Dyadic}
    (fallback : (exact value).pattern = target) :
    ∀ (steps : Nat) (exponent : Int), (search tie target value steps exponent).pattern = target
  | 0, _ => fallback
  | steps + 1, exponent => by
    unfold search
    split
    · next found member =>
      have passes := List.find?_some member
      exact beq_iff_eq.mp passes
    · exact pattern_search tie fallback steps (exponent - 1)

/-- The shortest decimal of a number names it. -/
theorem pattern_shortest (tie : Tie) {target : Nat} (finite : target < infinityPattern) :
    (shortest tie target).pattern = target := by
  unfold shortest
  split
  · next zero =>
    rw [zero]
    rfl
  · next nonzero => exact pattern_search tie (pattern_exact (by omega) finite) _ _

/-- A decimal that names a finite number is not huge. -/
theorem exponent_lt_of_pattern {decimal : Decimal} (nonzero : decimal.digits ≠ 0)
    (finite : decimal.pattern < infinityPattern) : decimal.exponent < 400 := by
  by_contra huge
  unfold pattern at finite
  rw [if_neg nonzero, if_pos (by omega)] at finite
  exact lt_irrefl _ finite

end Decimal

/-! ## Digits -/

/-- The digits of a number read back as the number. -/
theorem digitsValue_decimalDigits (number : Nat) : digitsValue 0 (decimalDigits number) = number :=
  Nat.ofDigitChars_ten_toDigits

theorem digitsValue_append (start : Nat) (left right : List Char) :
    digitsValue start (left ++ right) = digitsValue (digitsValue start left) right :=
  List.foldl_append

theorem digitsValue_zeros (start count : Nat) :
    digitsValue start (List.replicate count '0') = start * 10 ^ count := by
  rw [Nat.mul_comm]
  exact Nat.ofDigitChars_replicate_zero

theorem decimalDigits_ne_nil (number : Nat) : decimalDigits number ≠ [] :=
  Nat.toDigits_ne_nil

theorem isDigit_of_mem_decimalDigits {number : Nat} {character : Char}
    (member : character ∈ decimalDigits number) : character.isDigit = true :=
  Nat.isDigit_of_mem_toDigits (by decide) (by decide) member

theorem isDigit_zeros (count : Nat) :
    ∀ character ∈ List.replicate count '0', character.isDigit = true := by
  intro character member
  rw [List.eq_of_mem_replicate member]
  rfl

/-- Whether a text does not go on with a digit or a point. -/
def EndsDigits (rest : List Char) : Prop :=
  ∀ character ∈ rest.head?, character.isDigit = false ∧ character ≠ '.'

/-- A run of characters of one class is taken up to its end. -/
theorem takeRun_append {accepts : Char → Bool} {run rest : List Char}
    (isRun : ∀ character ∈ run, accepts character = true)
    (ends : ∀ character ∈ rest.head?, accepts character = false) :
    (run ++ rest).takeWhile accepts = run ∧ (run ++ rest).dropWhile accepts = rest := by
  rw [List.takeWhile_append_of_pos isRun, List.dropWhile_append_of_pos isRun]
  cases rest with
  | nil => simp
  | cons character others =>
    have stops := ends character rfl
    simp [stops]

namespace Numeral

/-! ## Reading the notations -/

theorem splitSign_of_digit {character : Char} (digit : character.isDigit = true)
    (others : List Char) : splitSign (character :: others) = (false, character :: others) := by
  unfold splitSign
  split
  · next same => cases same; exact absurd digit (by decide)
  · next same => cases same; exact absurd digit (by decide)
  · rfl

/-- Digits without a point. -/
theorem readDecimal_whole {digits rest : List Char}
    (isDigits : ∀ character ∈ digits, character.isDigit = true) (filled : digits ≠ [])
    (ends : EndsDigits rest) :
    readDecimal (digits ++ rest) =
      (readPower rest).map fun power => ⟨digitsValue 0 digits, power⟩ := by
  have taken := takeRun_append isDigits fun character member => (ends character member).1
  have noPoint : splitFraction rest = ([], rest) := by
    unfold splitFraction
    split
    · next others => exact absurd rfl (ends '.' rfl).2
    · rfl
  unfold readDecimal
  rw [taken.1, taken.2, noPoint]
  simp [filled, digitsValue]

/-- Digits with a point between them. -/
theorem readDecimal_point {whole fraction rest : List Char}
    (wholeDigits : ∀ character ∈ whole, character.isDigit = true) (filled : whole ≠ [])
    (fractionDigits : ∀ character ∈ fraction, character.isDigit = true)
    (ends : EndsDigits rest) :
    readDecimal (whole ++ '.' :: (fraction ++ rest)) =
      (readPower rest).map fun power =>
        ⟨digitsValue 0 (whole ++ fraction), power - fraction.length⟩ := by
  have pointNext : ∀ character ∈ ('.' :: (fraction ++ rest)).head?, character.isDigit = false := by
    rintro character ⟨⟩
    rfl
  have wholeTaken := takeRun_append wholeDigits pointNext
  have fractionTaken := takeRun_append fractionDigits fun character member =>
    (ends character member).1
  have point : splitFraction ('.' :: (fraction ++ rest)) = (fraction, rest) :=
    Prod.ext fractionTaken.1 fractionTaken.2
  unfold readDecimal
  rw [wholeTaken.1, wholeTaken.2, point]
  simp [filled, digitsValue_append]

/-- A power of ten reads back, whether or not a plus sign was written. -/
theorem readPower_written (power : Int) (signsPower : Bool) :
    readPower ('e' :: ((if power < 0 then ['-'] else if signsPower then ['+'] else []) ++
      decimalDigits power.natAbs)) = some power := by
  have filled := decimalDigits_ne_nil power.natAbs
  have isDigits : (decimalDigits power.natAbs).all Char.isDigit = true :=
    List.all_eq_true.mpr fun _ => isDigit_of_mem_decimalDigits
  have unsigned : splitSign (decimalDigits power.natAbs) =
      (false, decimalDigits power.natAbs) := by
    cases digits : decimalDigits power.natAbs with
    | nil => exact absurd digits filled
    | cons first others =>
      exact splitSign_of_digit (isDigit_of_mem_decimalDigits (digits ▸ List.mem_cons_self)) others
  unfold readPower
  by_cases negative : power < 0
  · simp [negative, splitSign, filled, isDigits, digitsValue_decimalDigits]
    rw [abs_of_neg negative, neg_neg]
  · have value : (power.natAbs : Int) = power := by omega
    cases signsPower
    · simp [negative, unsigned, filled, isDigits, digitsValue_decimalDigits, value]
    · simp [negative, splitSign, filled, isDigits, digitsValue_decimalDigits, value]

theorem endsDigits_nil : EndsDigits [] := by
  rintro character ⟨⟩

theorem endsDigits_power (rest : List Char) : EndsDigits ('e' :: rest) := by
  rintro character ⟨⟩
  decide

/-- A decimal written with a power of ten reads back as itself. -/
theorem readDecimal_scientific (layout : NumberLayout) (digits : List Char) (exponent : Int)
    (isDigits : ∀ character ∈ digits, character.isDigit = true) (filled : digits ≠ []) :
    readDecimal (layout.scientific digits (exponent + digits.length - 1)) =
      some ⟨digitsValue 0 digits, exponent⟩ := by
  have power := readPower_written (exponent + digits.length - 1) layout.signsPower
  unfold NumberLayout.scientific
  match digits, filled, isDigits with
  | [first], filled, isDigits =>
    show readDecimal ([first] ++ 'e' :: _) = _
    rw [readDecimal_whole isDigits filled (endsDigits_power _), power]
    simp
  | first :: second :: others, _, isDigits =>
    have firstDigit : ∀ character ∈ [first], character.isDigit = true := by
      intro character member
      exact isDigits character (List.mem_of_mem_take (i := 1) member)
    have otherDigits : ∀ character ∈ second :: others, character.isDigit = true :=
      fun character member => isDigits character (List.mem_cons_of_mem _ member)
    show readDecimal ([first] ++ '.' :: ((second :: others) ++ 'e' :: _)) = _
    rw [readDecimal_point firstDigit (List.cons_ne_nil _ _) otherDigits (endsDigits_power _),
      power]
    simp only [Option.map_some, List.length_cons, List.cons_append, List.nil_append]
    congr 2
    push_cast
    omega

section Positional

variable {digits : List Char} (isDigits : ∀ character ∈ digits, character.isDigit = true)
  (filled : digits ≠ [])

include isDigits in
theorem isDigit_append_zeros (zeros : Nat) :
    ∀ character ∈ digits ++ List.replicate zeros '0', character.isDigit = true := by
  intro character member
  rcases List.mem_append.mp member with inside | zero
  · exact isDigits character inside
  · exact isDigit_zeros zeros character zero

theorem digitsValue_append_zeros (digits : List Char) (zeros : Nat) :
    digitsValue 0 (digits ++ List.replicate zeros '0') = digitsValue 0 digits * 10 ^ zeros := by
  rw [digitsValue_append, digitsValue_zeros]

include isDigits filled

/-- A whole number, with zeros up to its end. -/
theorem readDecimal_zeros {zeros : Nat} (small : (zeros : Int) < 400) :
    ∃ decimal, readDecimal (digits ++ List.replicate zeros '0' ++ []) = some decimal ∧
      decimal.pattern = Decimal.pattern ⟨digitsValue 0 digits, zeros⟩ := by
  have read := readDecimal_whole (isDigit_append_zeros isDigits zeros)
    (List.append_ne_nil_of_left_ne_nil filled _) endsDigits_nil
  refine ⟨_, read, ?_⟩
  have shifted : Decimal.pattern ⟨digitsValue 0 digits * 10 ^ zeros, 0⟩ =
      Decimal.pattern ⟨digitsValue 0 digits, 0 + (zeros : Int)⟩ :=
    Decimal.pattern_shift (by decide) (by omega)
  rw [digitsValue_append_zeros]
  refine shifted.trans ?_
  rw [Int.zero_add]

/-- A whole number that keeps its point. -/
theorem readDecimal_zeros_point {zeros : Nat} (small : (zeros : Int) < 400) :
    ∃ decimal, readDecimal (digits ++ List.replicate zeros '0' ++ ['.', '0']) = some decimal ∧
      decimal.pattern = Decimal.pattern ⟨digitsValue 0 digits, zeros⟩ := by
  have fraction : ∀ character ∈ ['0'], character.isDigit = true := isDigit_zeros 1
  have read := readDecimal_point (isDigit_append_zeros isDigits zeros)
    (List.append_ne_nil_of_left_ne_nil filled _) fraction endsDigits_nil
  refine ⟨_, read, ?_⟩
  have shifted : Decimal.pattern ⟨digitsValue 0 digits * 10 ^ (zeros + 1), -1⟩ =
      Decimal.pattern ⟨digitsValue 0 digits, -1 + ((zeros + 1 : Nat) : Int)⟩ :=
    Decimal.pattern_shift (le_refl _) (by push_cast; omega)
  have last : digitsValue 0 (digits ++ List.replicate zeros '0' ++ ['0']) =
      digitsValue 0 digits * 10 ^ (zeros + 1) := by
    rw [digitsValue_append, digitsValue_append_zeros, pow_succ, ← Nat.mul_assoc, Nat.mul_comm _ 10]
    rfl
  rw [last]
  refine shifted.trans ?_
  congr 2
  push_cast
  omega

/-- A number with its point between its digits. -/
theorem readDecimal_point_inside {exponent : Int} {place : Nat} (negative : exponent < 0)
    (power : exponent + digits.length - 1 = place) :
    readDecimal (digits.take (place + 1) ++ '.' :: digits.drop (place + 1)) =
      some ⟨digitsValue 0 digits, exponent⟩ := by
  have whole : ∀ character ∈ digits.take (place + 1), character.isDigit = true :=
    fun character member => isDigits character (List.mem_of_mem_take member)
  have fraction : ∀ character ∈ digits.drop (place + 1), character.isDigit = true :=
    fun character member => isDigits character (List.mem_of_mem_drop member)
  have wholeFilled : digits.take (place + 1) ≠ [] := by
    rw [Ne, List.take_eq_nil_iff]
    simp [filled]
  have read := readDecimal_point whole wholeFilled fraction endsDigits_nil
  rw [List.append_nil, List.take_append_drop] at read
  refine read.trans (congrArg some ?_)
  rw [List.length_drop]
  dsimp only
  congr 1
  omega

omit filled in
/-- A number with zeros before its digits. -/
theorem readDecimal_leading_zeros {exponent : Int} {zeros : Nat}
    (count : -(exponent + digits.length - 1) - 1 = zeros) :
    readDecimal ('0' :: '.' :: (List.replicate zeros '0' ++ digits)) =
      some ⟨digitsValue 0 digits, exponent⟩ := by
  have fraction : ∀ character ∈ List.replicate zeros '0' ++ digits,
      character.isDigit = true := by
    intro character member
    rcases List.mem_append.mp member with zero | inside
    · exact isDigit_zeros zeros character zero
    · exact isDigits character inside
  have read := readDecimal_point (isDigit_zeros 1) (List.cons_ne_nil _ _) fraction endsDigits_nil
  rw [List.append_nil] at read
  have value : digitsValue 0 (List.replicate 1 '0' ++ (List.replicate zeros '0' ++ digits)) =
      digitsValue 0 digits := by
    rw [digitsValue_append, digitsValue_append, digitsValue_zeros, digitsValue_zeros,
      Nat.zero_mul, Nat.zero_mul]
  refine read.trans ?_
  rw [value, List.length_append, List.length_replicate]
  refine congrArg some (congrArg (Decimal.mk _) ?_)
  push_cast
  omega

/-- A decimal written without a power of ten reads back as the same number. -/
theorem readDecimal_positional (layout : NumberLayout) {exponent : Int} (small : exponent < 400) :
    ∃ decimal, readDecimal (layout.positional digits exponent (exponent + digits.length - 1)) =
        some decimal ∧ decimal.pattern = Decimal.pattern ⟨digitsValue 0 digits, exponent⟩ := by
  have length : 0 < digits.length := List.length_pos_iff.mpr filled
  unfold NumberLayout.positional
  split
  · next nonneg =>
    obtain ⟨zeros, rfl⟩ : ∃ zeros : Nat, exponent = zeros := ⟨exponent.toNat, by omega⟩
    rw [Int.toNat_natCast]
    cases layout.keepsPoint with
    | true => exact readDecimal_zeros_point isDigits filled small
    | false => exact readDecimal_zeros isDigits filled small
  · next negative =>
    split
    · next inside =>
      obtain ⟨place, power⟩ : ∃ place : Nat, exponent + digits.length - 1 = place :=
        ⟨(exponent + digits.length - 1).toNat, by omega⟩
      rw [power, Int.toNat_natCast]
      exact ⟨_, readDecimal_point_inside isDigits filled (by omega) power, rfl⟩
    · next outside =>
      obtain ⟨zeros, count⟩ : ∃ zeros : Nat, -(exponent + digits.length - 1) - 1 = zeros :=
        ⟨(-(exponent + digits.length - 1) - 1).toNat, by omega⟩
      rw [count, Int.toNat_natCast]
      exact ⟨_, readDecimal_leading_zeros isDigits count, rfl⟩

end Positional

/-- A written decimal reads back as a decimal of the same number. -/
theorem readDecimal_writeDecimal (layout : NumberLayout) (decimal : Decimal)
    (small : decimal.digits ≠ 0 → decimal.exponent < 400) :
    ∃ found, readDecimal (layout.writeDecimal decimal) = some found ∧
      found.pattern = decimal.pattern := by
  obtain ⟨digits, exponent⟩ := decimal
  unfold NumberLayout.writeDecimal
  dsimp only
  split
  · next zero =>
    have named : Decimal.pattern ⟨digits, exponent⟩ = 0 := if_pos zero
    rw [named]
    cases layout.keepsPoint with
    | true => exact ⟨⟨0, -1⟩, rfl, rfl⟩
    | false => exact ⟨⟨0, 0⟩, rfl, rfl⟩
  · next nonzero =>
    have isDigits : ∀ character ∈ decimalDigits digits, character.isDigit = true :=
      fun _ => isDigit_of_mem_decimalDigits
    have filled := decimalDigits_ne_nil digits
    have value := digitsValue_decimalDigits digits
    split
    · have read := readDecimal_scientific layout (decimalDigits digits) exponent isDigits filled
      rw [value] at read
      exact ⟨_, read, rfl⟩
    · have read := readDecimal_positional isDigits filled layout (small nonzero)
      rw [value] at read
      exact read

end Numeral

/-! ## Reading what was written -/

/-- Every written form begins with a sign or with its first digit or letter. -/
theorem NumberLayout.writeDecimal_head (layout : NumberLayout) (decimal : Decimal) :
    ∃ first others, layout.writeDecimal decimal = first :: others ∧ first.isDigit = true := by
  have filled := decimalDigits_ne_nil decimal.digits
  have isDigits : ∀ character ∈ decimalDigits decimal.digits, character.isDigit = true :=
    fun _ => isDigit_of_mem_decimalDigits
  unfold writeDecimal
  split
  · split
    · exact ⟨'0', ['.', '0'], rfl, rfl⟩
    · exact ⟨'0', [], rfl, rfl⟩
  · cases digits : decimalDigits decimal.digits with
    | nil => exact absurd digits filled
    | cons first others =>
      have digit : first.isDigit = true := isDigits first (digits ▸ List.mem_cons_self)
      dsimp only
      split
      · cases others with
        | nil => exact ⟨first, _, rfl, digit⟩
        | cons second others => exact ⟨first, _, rfl, digit⟩
      · unfold positional
        split
        · exact ⟨first, _, rfl, digit⟩
        · split
          · exact ⟨first, _, rfl, digit⟩
          · exact ⟨'0', _, rfl, rfl⟩

/-- A finite magnitude under a sign reads back as the decimal that was written. -/
theorem Numeral.read_writeDecimal (layout : NumberLayout) (negative : Bool) (decimal : Decimal)
    (small : decimal.digits ≠ 0 → decimal.exponent < 400) :
    ∃ found, Numeral.read ((if negative then ['-'] else []) ++ layout.writeDecimal decimal) =
        some (.finite negative found) ∧ found.pattern = decimal.pattern := by
  obtain ⟨found, read, named⟩ := readDecimal_writeDecimal layout decimal small
  refine ⟨found, ?_, named⟩
  have signed : splitSign ((if negative then ['-'] else []) ++ layout.writeDecimal decimal) =
      (negative, layout.writeDecimal decimal) := by
    cases negative with
    | true => rfl
    | false =>
      obtain ⟨first, others, written, digit⟩ := layout.writeDecimal_head decimal
      rw [written]
      exact splitSign_of_digit digit others
  unfold Numeral.read
  rw [signed]
  simp only [read]

/-- A number that is not undefined reads back, bit for bit, from what any layout
writes for it. -/
theorem readNumber_write (layout : NumberLayout) (value : Float) (defined : value.isNaN = false) :
    readNumber (layout.write value) = some value := by
  have whole := Binary64.toFloat_magnitudePattern value
  have bound := Binary64.magnitudePattern_le value defined
  have shortest : Binary64.magnitudePattern value < Binary64.infinityPattern →
      (Decimal.shortest layout.tie (Binary64.magnitudePattern value)).pattern =
        Binary64.magnitudePattern value := Decimal.pattern_shortest layout.tie
  unfold NumberLayout.write readNumber
  rw [defined]
  dsimp only
  by_cases infinite : Binary64.magnitudePattern value = Binary64.infinityPattern
  · rw [if_pos infinite]
    rw [infinite] at whole
    cases negative : Binary64.isNegative value with
    | true =>
      rw [negative] at whole
      exact congrArg some whole
    | false =>
      rw [negative] at whole
      exact congrArg some whole
  · have finite : Binary64.magnitudePattern value < Binary64.infinityPattern := by omega
    have named := shortest finite
    obtain ⟨found, read, same⟩ := Numeral.read_writeDecimal layout (Binary64.isNegative value)
      (Decimal.shortest layout.tie (Binary64.magnitudePattern value)) fun nonzero =>
        Decimal.exponent_lt_of_pattern nonzero (by rw [named]; exact finite)
    rw [if_neg infinite]
    simp only [Bool.false_eq_true, if_false]
    rw [read]
    show some (Binary64.toFloat _ found.pattern) = _
    rw [same, named, whole]

/-! ## The characters of written numbers -/

def isNumeralChar (character : Char) : Bool :=
  character.isDigit || ['.', 'e', '-', '+', 'i', 'n', 'f', 'N', 'a'].contains character

theorem isNumeralChar_of_isDigit {character : Char} (digit : character.isDigit = true) :
    isNumeralChar character = true := by
  unfold isNumeralChar
  rw [digit, Bool.true_or]

theorem isNumeralChar_decimalDigits (number : Nat) :
    ∀ character ∈ decimalDigits number, isNumeralChar character = true :=
  fun _ member => isNumeralChar_of_isDigit (isDigit_of_mem_decimalDigits member)

theorem isNumeralChar_zeros (count : Nat) :
    ∀ character ∈ List.replicate count '0', isNumeralChar character = true :=
  fun character member => isNumeralChar_of_isDigit (isDigit_zeros count character member)

namespace NumberLayout

theorem isNumeralChar_scientific (layout : NumberLayout) {digits : List Char} (power : Int)
    (isDigits : ∀ character ∈ digits, isNumeralChar character = true) :
    ∀ character ∈ layout.scientific digits power, isNumeralChar character = true := by
  unfold scientific
  rw [List.forall_mem_append, List.forall_mem_cons, List.forall_mem_append]
  refine ⟨?_, rfl, ?_, isNumeralChar_decimalDigits _⟩
  · split
    · rw [List.forall_mem_cons] at isDigits
      rw [List.forall_mem_cons, List.forall_mem_cons]
      exact ⟨isDigits.1, rfl, isDigits.2⟩
    · exact isDigits
  · apply List.all_eq_true.mp
    split
    · decide
    · split <;> decide

theorem isNumeralChar_positional (layout : NumberLayout) {digits : List Char} (exponent power : Int)
    (isDigits : ∀ character ∈ digits, isNumeralChar character = true) :
    ∀ character ∈ layout.positional digits exponent power, isNumeralChar character = true := by
  unfold positional
  split
  · rw [List.forall_mem_append, List.forall_mem_append]
    refine ⟨⟨isDigits, isNumeralChar_zeros _⟩, List.all_eq_true.mp ?_⟩
    split <;> decide
  · split
    · rw [List.forall_mem_append, List.forall_mem_cons]
      exact ⟨fun character member => isDigits character (List.mem_of_mem_take member), rfl,
        fun character member => isDigits character (List.mem_of_mem_drop member)⟩
    · rw [List.forall_mem_cons, List.forall_mem_cons, List.forall_mem_append]
      exact ⟨rfl, rfl, isNumeralChar_zeros _, isDigits⟩

theorem isNumeralChar_write (layout : NumberLayout) (value : Float) :
    ∀ character ∈ layout.write value, isNumeralChar character = true := by
  have signed : ∀ negative : Bool, ∀ character ∈ (if negative then ['-'] else []),
      isNumeralChar character = true := by
    intro negative
    apply List.all_eq_true.mp
    cases negative <;> decide
  have digits := isNumeralChar_decimalDigits
    (Decimal.shortest layout.tie (Binary64.magnitudePattern value)).digits
  unfold write writeDecimal
  split
  · apply List.all_eq_true.mp
    decide
  · dsimp only
    split
    · rw [List.forall_mem_append]
      exact ⟨signed _, List.all_eq_true.mp (by decide)⟩
    · rw [List.forall_mem_append]
      refine ⟨signed _, ?_⟩
      split
      · apply List.all_eq_true.mp
        split <;> decide
      · split
        · exact isNumeralChar_scientific layout _ digits
        · exact isNumeralChar_positional layout _ _ digits

/-- The written form of a finite number begins with a sign or with a digit. -/
theorem write_head (layout : NumberLayout) {value : Float} (finite : value.isFinite = true) :
    ∃ first others, layout.write value = first :: others ∧
      (first = '-' ∨ first.isDigit = true) := by
  have defined := Binary64.isNaN_of_isFinite finite
  have below := Binary64.magnitudePattern_lt value finite
  obtain ⟨first, others, written, digit⟩ := layout.writeDecimal_head
    (Decimal.shortest layout.tie (Binary64.magnitudePattern value))
  unfold write
  rw [defined]
  simp only [Bool.false_eq_true, if_false, if_neg (Nat.ne_of_lt below), written]
  cases Binary64.isNegative value with
  | true => exact ⟨'-', _, rfl, .inl rfl⟩
  | false => exact ⟨first, _, rfl, .inr digit⟩

theorem write_ne_nil (layout : NumberLayout) {value : Float} (defined : value.isNaN = false) :
    layout.write value ≠ [] := by
  intro empty
  have read := readNumber_write layout value defined
  rw [empty] at read
  cases read

end NumberLayout

end ConicModel
