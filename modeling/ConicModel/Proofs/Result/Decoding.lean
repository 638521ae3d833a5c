import ConicModel.Proofs.Float.Arithmetic
import ConicModel.Proofs.Result.Matrix
import ConicModel.Result.Decode

/-!
Contract: components of a value are shaped without loss, for every set and every number of them.

Owns:
- `decodeChecked?`, which shapes components step by step and checks every access;
- `SetShape.Arranges`, which says where each component is in a shaped value;
- the fact that no access fails, that a wrong number of components is refused with both numbers,
  and that the right number can be read back from the value;
- when the matrix of a triangle passes the test for symmetry.

Does not own: the entries of a matrix after each step, and which components a solver sends.
-/

namespace ConicModel

variable {K : Type}

/-! ## Shapes -/

def SetShape.count : SetShape → Nat
  | scalar => 1
  | vector length => length
  | triangle side => triangularNumber side
  | square side => side * side

theorem ConstraintSet.count_shape (set : ConstraintSet K) : set.shape.count = set.dimension := by
  cases set with
  | cone kind size => cases kind <;> rfl
  | _ => rfl

/-- Whether a value holds the given components in the places of a shape. -/
def SetShape.Arranges (values : List K) (value : ResultValue K) : SetShape → Prop
  | scalar => ∃ number, values = [number] ∧ value = .scalar number
  | vector _ => value = .vector values
  | triangle side => ∃ matrix, value = .matrix matrix ∧
      matrix.rows = side ∧ matrix.cols = side ∧ matrix.data.length = side * side ∧
      ∀ row col, row ≤ col → col < side → ∃ entry,
        values[col * (col + 1) / 2 + row]? = some entry ∧
          matrix.get? row col = some entry ∧ matrix.get? col row = some entry
  | square side => ∃ matrix, value = .matrix matrix ∧
      matrix.rows = side ∧ matrix.cols = side ∧ matrix.data.length = side * side ∧
      ∀ place < side * side, ∃ entry,
        values[place]? = some entry ∧ matrix.get? (place % side) (place / side) = some entry

/-- The components are determined by the value that holds them. -/
theorem SetShape.Arranges.injective {shape : SetShape} {values others : List K}
    {value : ResultValue K} (length : values.length = shape.count)
    (length' : others.length = shape.count) (arranged : shape.Arranges values value)
    (arranged' : shape.Arranges others value) : others = values := by
  cases shape with
  | scalar =>
    obtain ⟨number, rfl, rfl⟩ := arranged
    obtain ⟨_, rfl, same⟩ := arranged'
    cases same
    rfl
  | vector _ =>
    cases arranged
    cases arranged'
    rfl
  | triangle side =>
    obtain ⟨matrix, rfl, -, -, -, entries⟩ := arranged
    obtain ⟨_, same, -, -, -, entries'⟩ := arranged'
    cases same
    refine List.ext_getElem?' fun place within => ?_
    rw [length, length', Nat.max_self] at within
    obtain ⟨row, col, upper, colIn, rfl⟩ := exists_triangle_place within
    obtain ⟨entry, component, held, -⟩ := entries row col upper colIn
    obtain ⟨entry', component', held', -⟩ := entries' row col upper colIn
    exact component'.trans ((held'.symm.trans held).trans component.symm)
  | square side =>
    obtain ⟨matrix, rfl, -, -, -, entries⟩ := arranged
    obtain ⟨_, same, -, -, -, entries'⟩ := arranged'
    cases same
    refine List.ext_getElem?' fun place within => ?_
    rw [length, length', Nat.max_self] at within
    obtain ⟨entry, component, held⟩ := entries place within
    obtain ⟨entry', component', held'⟩ := entries' place within
    exact component'.trans ((held'.symm.trans held).trans component.symm)

/-! ## Shaping step by step -/

section Shaping

variable [Zero K]

/-- Shapes the components of a value of `set` as `decode` does, with every access checked; there
is no result if one is out of range. -/
def decodeChecked? (set : ConstraintSet K) (values : List K) :
    Option (Except LengthMismatch (ResultValue K)) :=
  if values.length = set.dimension then
    match set.shape with
    | .scalar => do
      let number ← values[0]?
      return .ok (.scalar number)
    | .vector _ => return .ok (.vector values)
    | .triangle side => do
      let matrix ← DenseMatrix.fillTriangle? side values
      return .ok (.matrix matrix)
    | .square side => do
      let matrix ← DenseMatrix.fillColumns? side values
      return .ok (.matrix matrix)
  else return .error ⟨set.name, set.dimension, values.length⟩

/-- No access is out of range. -/
theorem decodeChecked?_eq (set : ConstraintSet K) (values : List K) :
    decodeChecked? set values = some (decode set values) := by
  have counted := set.count_shape
  unfold decodeChecked? decode
  by_cases length : values.length = set.dimension
  · rw [if_pos length, if_pos length]
    rw [← counted] at length
    cases shape : set.shape with
    | scalar =>
      rw [shape] at length
      obtain ⟨number, rfl⟩ := List.length_eq_one_iff.mp length
      rfl
    | vector _ => rfl
    | triangle side =>
      rw [shape] at length
      dsimp only
      rw [DenseMatrix.fillTriangle?_eq length]
      rfl
    | square side =>
      rw [shape] at length
      dsimp only
      rw [DenseMatrix.fillColumns?_eq (Nat.le_of_eq length)]
      rfl
  · rw [if_neg length, if_neg length]
    rfl

/-! ## Shaped values -/

theorem decode_of_mismatch {set : ConstraintSet K} {values : List K}
    (length : values.length ≠ set.dimension) :
    decode set values = .error ⟨set.name, set.dimension, values.length⟩ :=
  if_neg length

theorem getD_eq_of_getElem? {values : List K} {place : Nat} {entry : K}
    (component : values[place]? = some entry) : values.getD place 0 = entry := by
  rw [List.getD_eq_getElem?_getD, component, Option.getD_some]

/-- The two places of a component in the matrix of a triangle. -/
theorem get?_ofTriangle {side : Nat} {values : List K} {row col : Nat} {entry : K}
    (upper : row ≤ col) (colIn : col < side)
    (component : values[triangularNumber col + row]? = some entry) :
    (DenseMatrix.ofTriangle side values).get? row col = some entry ∧
      (DenseMatrix.ofTriangle side values).get? col row = some entry := by
  have greater : max row col = col := Nat.max_eq_right upper
  have lesser : min row col = row := Nat.min_eq_left upper
  have value := getD_eq_of_getElem? component
  unfold DenseMatrix.ofTriangle
  rw [DenseMatrix.get?_ofEntries (by omega) colIn, DenseMatrix.get?_ofEntries colIn (by omega),
    Nat.max_comm col row, Nat.min_comm col row, greater, lesser]
  exact ⟨congrArg some value, congrArg some value⟩

/-- As many components as the dimension are all put in their places. -/
theorem decode_arranges {set : ConstraintSet K} {values : List K}
    (length : values.length = set.dimension) :
    ∃ value, decode set values = .ok value ∧ set.shape.Arranges values value := by
  unfold decode
  rw [if_pos length]
  rw [← set.count_shape] at length
  cases shape : set.shape with
  | scalar =>
    rw [shape] at length
    obtain ⟨number, rfl⟩ := List.length_eq_one_iff.mp length
    exact ⟨_, rfl, number, rfl, rfl⟩
  | vector _ => exact ⟨_, rfl, rfl⟩
  | triangle side =>
    rw [shape] at length
    refine ⟨_, rfl, _, rfl, rfl, rfl, DenseMatrix.length_ofEntries _ _ _, ?_⟩
    intro row col upper colIn
    have within : triangularNumber col + row < values.length :=
      length ▸ triangle_place_lt upper colIn
    have component := List.getElem?_eq_getElem within
    exact ⟨_, component, get?_ofTriangle upper colIn component⟩
  | square side =>
    rw [shape] at length
    refine ⟨_, rfl, _, rfl, rfl, rfl, DenseMatrix.length_ofEntries _ _ _, ?_⟩
    intro place within
    have positive : 0 < side := Nat.pos_of_ne_zero fun zero => by simp [zero] at within
    have component := List.getElem?_eq_getElem (show place < values.length from length ▸ within)
    refine ⟨_, component, ?_⟩
    unfold DenseMatrix.ofColumns
    rw [DenseMatrix.get?_ofEntries (Nat.mod_lt _ positive) (Nat.div_lt_of_lt_mul within),
      Nat.div_add_mod']
    exact congrArg some (getD_eq_of_getElem? component)

/-- A triangle is read column by column, and both sides of the diagonal get its entries. -/
example : decode (.cone .semidefiniteTriangle 3) [1, 2, 3, 4, 5, 6] =
    .ok (.matrix ⟨3, 3, [1, 2, 4, 2, 3, 5, 4, 5, 6]⟩) := rfl

theorem length_of_decode {set : ConstraintSet K} {values : List K} {value : ResultValue K}
    (decoded : decode set values = .ok value) : values.length = set.dimension := by
  by_contra length
  rw [decode_of_mismatch length] at decoded
  cases decoded

end Shaping

/-! ## Symmetry -/

/-- The matrix of a triangle fails the test for symmetry only where a component that is written
twice is not equal to itself. -/
theorem isSymmetric_ofTriangle {side : Nat} {values : List Float}
    (length : values.length = triangularNumber side) :
    (DenseMatrix.ofTriangle side values).isSymmetric = true ↔
      ∀ row col entry, row < col → col < side →
        values[col * (col + 1) / 2 + row]? = some entry → entry.isNaN = false := by
  rw [DenseMatrix.isSymmetric_iff rfl]
  constructor
  · intro same row col entry above colIn component
    obtain ⟨upper, lower⟩ := get?_ofTriangle (Nat.le_of_lt above) colIn component
    have passed := same col row above colIn
    rw [upper, lower] at passed
    exact (Binary64.beq_self_iff entry).mp passed
  · intro defined col row above (colIn : col < side)
    have within : triangularNumber col + row < values.length :=
      length ▸ triangle_place_lt (Nat.le_of_lt above) colIn
    have component := List.getElem?_eq_getElem within
    obtain ⟨upper, lower⟩ := get?_ofTriangle (Nat.le_of_lt above) colIn component
    rw [upper, lower]
    exact Binary64.beq_self _ (defined row col _ above colIn component)

/-! ## Exactness -/

/-- Shaping never fails on an access, refuses exactly the components of a wrong number, and
otherwise puts each where it can be read back from, so that no other components give the value. -/
theorem decode_exact (set : ConstraintSet Float) (values : List Float) :
    decodeChecked? set values = some (decode set values) ∧
      (values.length ≠ set.dimension →
        decode set values = .error ⟨set.name, set.dimension, values.length⟩) ∧
      (values.length = set.dimension → ∃ value, decode set values = .ok value ∧
        set.shape.Arranges values value ∧
        (∀ side matrix, set.shape = .triangle side → value = .matrix matrix →
          (matrix.isSymmetric = true ↔ ∀ row col entry, row < col → col < side →
            values[col * (col + 1) / 2 + row]? = some entry → entry.isNaN = false)) ∧
        ∀ others, decode set others = .ok value → others = values) := by
  refine ⟨decodeChecked?_eq set values, decode_of_mismatch, fun length => ?_⟩
  obtain ⟨value, decoded, arranged⟩ := decode_arranges length
  refine ⟨value, decoded, arranged, ?_, ?_⟩
  · intro side matrix shape isMatrix
    have built : value = .matrix (DenseMatrix.ofTriangle side values) := by
      unfold decode at decoded
      rw [if_pos length, shape] at decoded
      cases decoded
      rfl
    cases isMatrix.symm.trans built
    rw [← set.count_shape, shape] at length
    exact isSymmetric_ofTriangle length
  · intro others decoded'
    have length' := length_of_decode decoded'
    obtain ⟨value', again, arranged'⟩ := decode_arranges length'
    cases again.symm.trans decoded'
    exact arranged.injective (length.trans set.count_shape.symm)
      (length'.trans set.count_shape.symm) arranged'

/-- The six components of a matrix with three rows. -/
theorem decode_exact_triangle :
    ∃ value, decode (.cone .semidefiniteTriangle 3) [1, 2, 3, 4, 5, 6] = .ok value ∧
      ∀ others : List Float, decode (.cone .semidefiniteTriangle 3) others = .ok value →
        others = [1, 2, 3, 4, 5, 6] := by
  obtain ⟨value, decoded, -, -, only⟩ :=
    (decode_exact (.cone .semidefiniteTriangle 3) [1, 2, 3, 4, 5, 6]).2.2 rfl
  exact ⟨value, decoded, only⟩

end ConicModel
