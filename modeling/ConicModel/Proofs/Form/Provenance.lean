import ConicModel.Proofs.Form.JsonText
import ConicModel.Proofs.Result.Access
import ConicModel.Proofs.Result.Rows

/-!
Contract: where dense matrices come from, and which of them are full.

Owns:
- the matrices that are built from zeros, from rows or from components, which are full unless the
  number of their entries has wrapped around;
- matrices and results that are written and read again, in every format;
- the matrices that are read, whose dimensions and entries need not agree.

Does not own: which reads of a matrix fail, and the format.

A text tells the dimensions and the entries of a matrix apart from each other, and they are taken
as they are.  So a matrix that is read is only as full as the one from which its text was written.
-/

namespace ConicModel

namespace DenseMatrix

variable {overflow : Overflow} {matrix : DenseMatrix Float}

/-! ## Matrices that are built -/

/-- Matrices that are made here: of zeros, of nested rows, or of the components of a value. -/
inductive Built (overflow : Overflow) : DenseMatrix Float → Prop where
  | zeros {rows cols : Nat} {matrix : DenseMatrix Float}
      (made : zerosIn? overflow rows cols = some matrix) : Built overflow matrix
  | ofRows {rows : List (List Float)} {matrix : DenseMatrix Float}
      (accepted : ofRows? rows = some matrix) : Built overflow matrix
  | decode {set : ConstraintSet Float} {values : List Float} {matrix : DenseMatrix Float}
      (decoded : decodeIn? overflow set values = some (.ok (.matrix matrix))) :
      Built overflow matrix

/-- A matrix with as many entries as its dimensions count in words. -/
theorem isFull_of_isOfSize {rows cols count : Nat}
    (counted : overflow.word? (rows * cols) = some count)
    (size : matrix.IsOfSize rows cols count) :
    matrix.IsFull ∨ overflow = .wraps ∧ 2 ^ 64 ≤ matrix.rows * matrix.cols := by
  obtain ⟨rfl, rfl, rfl⟩ := size
  exact Overflow.eq_of_word? counted

theorem isFull_of_ofRows? {rows : List (List Float)} (accepted : ofRows? rows = some matrix) :
    matrix.IsFull := by
  obtain ⟨equal, -, count, data⟩ := ofRows?_eq_some_iff.mp accepted
  unfold IsFull
  rw [data, count]
  exact length_flatten equal

/-- Every matrix that is built is full, unless the product of its dimensions has wrapped around. -/
theorem isFull_of_built (built : Built overflow matrix) :
    matrix.IsFull ∨ overflow = .wraps ∧ 2 ^ 64 ≤ matrix.rows * matrix.cols := by
  cases built with
  | zeros made =>
    obtain ⟨count, counted, size⟩ := isOfSize_of_zerosIn? made
    exact isFull_of_isOfSize counted size
  | ofRows accepted => exact .inl (isFull_of_ofRows? accepted)
  | decode decoded =>
    obtain ⟨side, count, counted, size⟩ := isOfSize_of_decodeIn? decoded
    exact isFull_of_isOfSize counted size

/-- Wrapping around is the only way, since no vector has as many entries. -/
theorem isFull_iff_of_built (fits : matrix.SizesFit) (built : Built overflow matrix) :
    matrix.IsFull ↔ overflow = .fails ∨ matrix.rows * matrix.cols < 2 ^ 64 := by
  obtain ⟨-, -, short⟩ := fits
  constructor
  · intro full
    have product : matrix.data.length = matrix.rows * matrix.cols := full
    exact .inr (by omega)
  · intro unwrapped
    refine (isFull_of_built built).resolve_right fun ⟨wraps, large⟩ => ?_
    rcases unwrapped with fails | small
    · cases wraps.symm.trans fails
    · omega

end DenseMatrix

/-! ## Matrices by way of their text -/

namespace ResultValue

def hasFiniteNumbers : ResultValue Float → Bool
  | scalar value => value.isFinite
  | vector values => values.all Float.isFinite
  | matrix entries => entries.data.all Float.isFinite

def SizesFit : ResultValue Float → Prop
  | matrix entries => entries.SizesFit
  | _ => True

end ResultValue

namespace Interchange

section Again

variable {format : Interchange} (numbers : format.Numbers) (derived : format.Derived)
  {matrix : DenseMatrix Float}
include numbers derived

/-- A matrix comes back as it is, full or not, if its entries are finite. -/
theorem again_matrix (fits : matrix.SizesFit) :
    format.matrix.again matrix = if matrix.data.all Float.isFinite then some matrix else none := by
  obtain ⟨rows, cols, -⟩ := fits
  unfold Codec.again
  rw [derived.write_matrix, derived.read_matrix _ rows _ cols, numbers.again_word _ rows,
    numbers.again_word _ cols, numbers.again_numbers]
  cases matrix.data.all Float.isFinite <;> rfl

/-- So does every value of a result. -/
theorem again_result {value : ResultValue Float} (fits : value.SizesFit) :
    format.result.again value = if value.hasFiniteNumbers then some value else none := by
  unfold Codec.again
  rw [derived.write_result]
  cases value with
  | scalar value =>
    refine (derived.read_scalar value).trans ?_
    rw [numbers.again_number]
    exact Option.map_if
  | vector values =>
    refine (derived.read_vector values).trans ?_
    rw [numbers.again_numbers]
    exact Option.map_if
  | matrix entries =>
    have wide : entries.SizesFit := fits
    refine (derived.read_matrixResult entries wide.1 wide.2.1).trans ?_
    rw [again_matrix numbers derived wide]
    exact Option.map_if

end Again

end Interchange

namespace DenseMatrix

open Interchange

/-! ## Matrices that are read -/

/-- Matrices that are built, or read from a text on their own or within a result. -/
inductive Obtained (overflow : Overflow) (format : Interchange) : DenseMatrix Float → Prop where
  | built {matrix : DenseMatrix Float} (built : Built overflow matrix) :
      Obtained overflow format matrix
  | read {text : String} {matrix : DenseMatrix Float}
      (found : format.matrix.read text = some matrix) : Obtained overflow format matrix
  | readResult {text : String} {matrix : DenseMatrix Float}
      (found : format.result.read text = some (.matrix matrix)) : Obtained overflow format matrix

end DenseMatrix

end ConicModel
