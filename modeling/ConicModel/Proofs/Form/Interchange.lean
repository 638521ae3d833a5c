import ConicModel.Model.Variable
import ConicModel.Result.Decode
import Mathlib.Algebra.Order.Group.Nat

/-!
Contract: values by way of the texts of a format that is not defined here.

Owns:
- `Interchange`, the writers and the readers of a format, as a parameter;
- what its documentation says of numbers, of numbers that may be absent and of lists;
- what is known of writers and readers that are derived from the declaration of a type;
- what comes back of numbers.

Does not own: any format, and what comes back of values with several parts.

The texts of parts are put together by the functions `array`, `alternative` and `record`, of which
nothing is assumed but that a derived reader takes apart what the derived writer put together.
-/

namespace ConicModel

structure Codec (α : Type) where
  write : α → String
  read : String → Option α

/-- What a value is after it was written and read. -/
def Codec.again {α : Type} (codec : Codec α) (value : α) : Option α :=
  codec.read (codec.write value)

/-- The writers and readers of a text format. -/
structure Interchange where
  number : Codec Float
  optional : Codec (Option Float)
  word : Codec Nat
  numbers : Codec (List Float)
  /-- The text of a list, from those of its items. -/
  array : List String → String
  /-- The text of a named alternative, from that of its content if it has one. -/
  alternative : String → Option String → String
  /-- The text of a record, from those of its named fields. -/
  record : List (String × String) → String
  set : Codec (ConstraintSet Float)
  bounds : Codec (Bounds Float)
  matrix : Codec (DenseMatrix Float)
  result : Codec (ResultValue Float)

namespace Interchange

variable (format : Interchange)

/-! ## What is assumed -/

/-- The documentation on numbers: finite ones come back, others are written as `null`, and `null`
is an absent number and never a present one. -/
structure Numbers : Prop where
  again_finite : ∀ value : Float, value.isFinite = true → format.number.again value = some value
  write_infinite : ∀ value : Float, value.isFinite = false → format.number.write value = "null"
  read_null : format.number.read "null" = none
  write_none : format.optional.write none = "null"
  write_some : ∀ value, format.optional.write (some value) = format.number.write value
  read_none : format.optional.read "null" = some none
  read_some : ∀ value, format.number.write value ≠ "null" →
    format.optional.read (format.number.write value) = (format.number.again value).map some
  again_word : ∀ size < 2 ^ 64, format.word.again size = some size
  write_numbers : ∀ values : List Float,
    format.numbers.write values = format.array (values.map format.number.write)
  read_numbers : ∀ values : List Float,
    format.numbers.read (format.array (values.map format.number.write)) =
      values.mapM format.number.again

def setContent : ConstraintSet Float → Option String
  | .lessThan bound => some (format.number.write bound)
  | .greaterThan bound => some (format.number.write bound)
  | .equalTo value => some (format.number.write value)
  | .interval lower upper =>
    some (format.array [format.number.write lower, format.number.write upper])
  | .integer => none
  | .zeroOne => none
  | .cone _ size => some (format.word.write size)

def resultContent : ResultValue Float → String × String
  | .scalar value => ("Scalar", format.number.write value)
  | .vector values => ("Vector", format.numbers.write values)
  | .matrix entries => ("Matrix", format.matrix.write entries)

def boundsFields (lower upper fixed : Option Float) : List (String × String) :=
  [("lower", format.optional.write lower), ("upper", format.optional.write upper),
    ("fixed", format.optional.write fixed)]

def matrixFields (rows cols : Nat) (data : List Float) : List (String × String) :=
  [("rows", format.word.write rows), ("cols", format.word.write cols),
    ("data", format.numbers.write data)]

/-- What deriving a writer and a reader does: the alternative of a value is told by its name and
read from it, and each of its parts and fields is written and read for itself. -/
structure Derived : Prop where
  write_set : ∀ set,
    format.set.write set = format.alternative set.name (format.setContent set)
  read_lessThan : ∀ bound,
    format.set.read (format.alternative "LessThan" (some (format.number.write bound))) =
      (format.number.again bound).map .lessThan
  read_greaterThan : ∀ bound,
    format.set.read (format.alternative "GreaterThan" (some (format.number.write bound))) =
      (format.number.again bound).map .greaterThan
  read_equalTo : ∀ value,
    format.set.read (format.alternative "EqualTo" (some (format.number.write value))) =
      (format.number.again value).map .equalTo
  read_interval : ∀ lower upper,
    format.set.read (format.alternative "Interval"
        (some (format.array [format.number.write lower, format.number.write upper]))) =
      (format.number.again lower).bind fun lower =>
        (format.number.again upper).bind fun upper => some (.interval lower upper)
  read_integer : format.set.read (format.alternative "Integer" none) = some .integer
  read_zeroOne : format.set.read (format.alternative "ZeroOne" none) = some .zeroOne
  read_cone : ∀ (kind : Cone), ∀ size < 2 ^ 64,
    format.set.read (format.alternative kind.name (some (format.word.write size))) =
      (format.word.again size).map (.cone kind)
  write_bounds : ∀ bounds, format.bounds.write bounds =
    format.record (format.boundsFields bounds.lower bounds.upper bounds.fixed)
  read_bounds : ∀ lower upper fixed,
    format.bounds.read (format.record (format.boundsFields lower upper fixed)) =
      (format.optional.again lower).bind fun lower =>
        (format.optional.again upper).bind fun upper =>
          (format.optional.again fixed).bind fun fixed => some ⟨lower, upper, fixed⟩
  write_matrix : ∀ matrix, format.matrix.write matrix =
    format.record (format.matrixFields matrix.rows matrix.cols matrix.data)
  read_matrix : ∀ rows < 2 ^ 64, ∀ cols < 2 ^ 64, ∀ data,
    format.matrix.read (format.record (format.matrixFields rows cols data)) =
      (format.word.again rows).bind fun rows =>
        (format.word.again cols).bind fun cols =>
          (format.numbers.again data).bind fun data => some ⟨rows, cols, data⟩
  write_result : ∀ value, format.result.write value =
    format.alternative (format.resultContent value).1 (some (format.resultContent value).2)
  read_scalar : ∀ value,
    format.result.read (format.alternative "Scalar" (some (format.number.write value))) =
      (format.number.again value).map .scalar
  read_vector : ∀ values,
    format.result.read (format.alternative "Vector" (some (format.numbers.write values))) =
      (format.numbers.again values).map .vector
  read_matrixResult : ∀ matrix : DenseMatrix Float,
    matrix.rows < 2 ^ 64 → matrix.cols < 2 ^ 64 →
      format.result.read (format.alternative "Matrix" (some (format.matrix.write matrix))) =
        (format.matrix.again matrix).map .matrix

/-! ## What comes back of numbers -/

namespace Numbers

variable {format : Interchange} (numbers : format.Numbers)
include numbers

theorem again_number (value : Float) :
    format.number.again value = if value.isFinite then some value else none := by
  split
  · next finite => exact numbers.again_finite value finite
  · next infinite =>
    unfold Codec.again
    rw [numbers.write_infinite value (Bool.eq_false_iff.mpr infinite), numbers.read_null]

/-- The text of a finite number is none of an absent one, since it is read as a number. -/
theorem write_ne_null {value : Float} (finite : value.isFinite = true) :
    format.number.write value ≠ "null" := by
  intro null
  have found := numbers.again_finite value finite
  unfold Codec.again at found
  rw [null, numbers.read_null] at found
  cases found

/-- Where a number may be absent, one that is not finite is absent. -/
theorem again_optional (value : Option Float) :
    format.optional.again value = some (value.filter Float.isFinite) := by
  unfold Codec.again
  cases value with
  | none =>
    rw [numbers.write_none, numbers.read_none]
    rfl
  | some value =>
    rw [numbers.write_some, Option.filter_some]
    split
    · next finite =>
      rw [numbers.read_some value (numbers.write_ne_null finite), numbers.again_finite value finite]
      rfl
    · next infinite =>
      rw [numbers.write_infinite value (Bool.eq_false_iff.mpr infinite), numbers.read_none]

theorem again_numbers (values : List Float) :
    format.numbers.again values = if values.all Float.isFinite then some values else none := by
  unfold Codec.again
  rw [numbers.write_numbers, numbers.read_numbers]
  induction values with
  | nil => rfl
  | cons value values inductionHypothesis =>
    rw [List.mapM_cons, numbers.again_number, inductionHypothesis, List.all_cons]
    cases value.isFinite <;> cases values.all Float.isFinite <;> rfl

end Numbers

end Interchange

end ConicModel
