import ConicModel.Constraint.Set
import ConicModel.Result.Matrix
import Mathlib.Algebra.Order.Group.Nat
import Mathlib.Data.List.Basic
import Mathlib.Data.List.Induction

/-!
Contract: where the entries of a dense matrix are, and how it is filled place by place.

Owns:
- the entries, the size and the symmetry of a matrix that is given by its entries;
- the places of a triangle, one for each pair of a row and a column up to the diagonal;
- `DenseMatrix.put?`, which writes one entry and fails outside of the data;
- filling by columns, of a square or of an upper triangle and its mirror image, with any way to
  write an entry and with every access to the values checked;
- the fact that no check fails, and that the filled matrix is the one given by its entries.

Does not own: for which sets a matrix is filled.

A matrix that has taken some of the values is the one that these values give alone, with zeros
for the rest, so a loop is followed by saying which values it has taken.
-/

namespace ConicModel

variable {K : Type}

namespace DenseMatrix

/-! ## Matrices given by their entries -/

theorem place_lt {rows cols row col : Nat} (rowIn : row < rows) (colIn : col < cols) :
    row * cols + col < rows * cols := by
  have := Nat.mul_le_mul_right cols (Nat.succ_le_of_lt rowIn)
  rw [Nat.succ_mul] at this
  omega

section Entries

variable {rows cols : Nat} {entry : Nat → Nat → K}

theorem length_ofEntries (rows cols : Nat) (entry : Nat → Nat → K) :
    (ofEntries rows cols entry).data.length = rows * cols := by
  simp [ofEntries]

/-- Entries are stored row by row. -/
theorem getElem?_ofEntries {row col : Nat} (rowIn : row < rows) (colIn : col < cols) :
    (ofEntries rows cols entry).data[row * cols + col]? = some (entry row col) := by
  induction rows with
  | zero => omega
  | succ rows inductionHypothesis =>
    have split : (ofEntries (rows + 1) cols entry).data =
        (ofEntries rows cols entry).data ++ (List.range cols).map (entry rows) := by
      simp [ofEntries, List.range_succ]
    have before := length_ofEntries rows cols entry
    rw [split]
    rcases Nat.lt_succ_iff_lt_or_eq.mp rowIn with earlier | rfl
    · have inside := place_lt earlier colIn
      rw [List.getElem?_append_left (by omega)]
      exact inductionHypothesis earlier
    · rw [List.getElem?_append_right (by omega), before, Nat.add_sub_cancel_left]
      simp [colIn]

theorem get?_ofEntries {row col : Nat} (rowIn : row < rows) (colIn : col < cols) :
    (ofEntries rows cols entry).get? row col = some (entry row col) :=
  (if_pos ⟨rowIn, colIn⟩).trans (getElem?_ofEntries rowIn colIn)

theorem ofEntries_congr {other : Nat → Nat → K}
    (same : ∀ row < rows, ∀ col < cols, entry row col = other row col) :
    ofEntries rows cols entry = ofEntries rows cols other := by
  unfold ofEntries
  congr 1
  refine List.flatMap_congr fun row rowIn => List.map_congr_left fun col colIn => ?_
  exact same row (List.mem_range.mp rowIn) col (List.mem_range.mp colIn)

end Entries

/-- A square matrix is symmetric if the entries on both sides of the diagonal pass the test for
equality. -/
theorem isSymmetric_iff [BEq K] {matrix : DenseMatrix K} (square : matrix.rows = matrix.cols) :
    matrix.isSymmetric = true ↔ ∀ row col, col < row → row < matrix.rows →
      (matrix.get? row col == matrix.get? col row) = true := by
  unfold isSymmetric
  rw [beq_iff_eq.mpr square, Bool.true_and]
  simp only [List.all_eq_true, List.mem_range]
  exact ⟨fun all row col below rowIn => all row rowIn col below,
    fun all row rowIn col below => all row col below rowIn⟩

/-! ## Writing one entry -/

/-- Writes an entry; fails if the data has no such place. -/
def put? (matrix : DenseMatrix K) (row col : Nat) (value : K) : Option (DenseMatrix K) :=
  if row * matrix.cols + col < matrix.data.length then
    some { matrix with data := matrix.data.set (row * matrix.cols + col) value }
  else none

/-- Different places of a matrix are different places of its data. -/
theorem place_eq_iff {cols row col row' col' : Nat} (colIn : col < cols) (colIn' : col' < cols) :
    row * cols + col = row' * cols + col' ↔ row = row' ∧ col = col' := by
  constructor
  · intro same
    have positive : 0 < cols := by omega
    have rows := congrArg (· / cols) same
    simp only [Nat.mul_comm _ cols, Nat.mul_add_div positive, Nat.div_eq_of_lt colIn,
      Nat.div_eq_of_lt colIn', Nat.add_zero] at rows
    subst rows
    exact ⟨rfl, by omega⟩
  · rintro ⟨rfl, rfl⟩
    rfl

/-- Within the matrix the write succeeds, and changes the one entry. -/
theorem put?_ofEntries {rows cols : Nat} {entry : Nat → Nat → K} {row col : Nat}
    (rowIn : row < rows) (colIn : col < cols) (value : K) :
    (ofEntries rows cols entry).put? row col value =
      some (ofEntries rows cols fun r c => if r = row ∧ c = col then value else entry r c) := by
  have inside : row * cols + col < (ofEntries rows cols entry).data.length := by
    rw [length_ofEntries]
    exact place_lt rowIn colIn
  have written : (ofEntries rows cols entry).data.set (row * cols + col) value =
      (ofEntries rows cols fun r c => if r = row ∧ c = col then value else entry r c).data := by
    refine List.ext_getElem? fun place => ?_
    by_cases within : place < rows * cols
    · have positive : 0 < cols := by omega
      have rowAt : place / cols < rows := Nat.div_lt_of_lt_mul (by rwa [Nat.mul_comm])
      have colAt : place % cols < cols := Nat.mod_lt _ positive
      have parts : place = place / cols * cols + place % cols := (Nat.div_add_mod' _ _).symm
      rw [List.getElem?_set, if_pos inside, parts, getElem?_ofEntries rowAt colAt,
        getElem?_ofEntries rowAt colAt]
      simp only [place_eq_iff colIn colAt, eq_comm (a := row), eq_comm (a := col)]
      split <;> rfl
    · rw [List.getElem?_eq_none (by rw [List.length_set, length_ofEntries]; omega),
        List.getElem?_eq_none (by rw [length_ofEntries]; omega)]
  exact (if_pos inside).trans
    (congrArg (fun data => some (⟨rows, cols, data⟩ : DenseMatrix K)) written)

end DenseMatrix

/-! ## Places of a triangle -/

theorem triangularNumber_succ (side : Nat) :
    triangularNumber (side + 1) = triangularNumber side + (side + 1) := by
  unfold triangularNumber
  rw [Nat.mul_comm, Nat.add_mul side 2, Nat.add_mul_div_left _ _ Nat.two_pos]

theorem triangularNumber_mono {low high : Nat} (below : low ≤ high) :
    triangularNumber low ≤ triangularNumber high := by
  induction below with
  | refl => exact Nat.le_refl _
  | step _ inductionHypothesis =>
    rw [triangularNumber_succ]
    omega

/-- Every place up to the diagonal is one of the triangle. -/
theorem triangle_place_lt {side row col : Nat} (upper : row ≤ col) (colIn : col < side) :
    triangularNumber col + row < triangularNumber side := by
  have column := triangularNumber_succ col
  have columns := triangularNumber_mono (show col + 1 ≤ side from colIn)
  omega

/-- Different places up to the diagonal are different places of the triangle. -/
theorem triangle_place_eq_iff {row col row' col' : Nat} (upper : row ≤ col) (upper' : row' ≤ col') :
    triangularNumber col + row = triangularNumber col' + row' ↔ row = row' ∧ col = col' := by
  constructor
  · intro same
    rcases Nat.lt_trichotomy col col' with before | rfl | after
    · have := triangle_place_lt upper before
      omega
    · exact ⟨Nat.add_left_cancel same, rfl⟩
    · have := triangle_place_lt upper' after
      omega
  · rintro ⟨rfl, rfl⟩
    rfl

/-- Every place of the triangle is one up to the diagonal. -/
theorem exists_triangle_place {side place : Nat} (within : place < triangularNumber side) :
    ∃ row col, row ≤ col ∧ col < side ∧ place = triangularNumber col + row := by
  induction side with
  | zero => cases within
  | succ side inductionHypothesis =>
    by_cases earlier : place < triangularNumber side
    · obtain ⟨row, col, upper, colIn, at_⟩ := inductionHypothesis earlier
      exact ⟨row, col, upper, Nat.lt_succ_of_lt colIn, at_⟩
    · rw [triangularNumber_succ] at within
      exact ⟨place - triangularNumber side, side, by omega, Nat.lt_succ_self side, by omega⟩

namespace DenseMatrix

/-! ## Filling by columns -/

section Loops

variable (put : DenseMatrix K → Nat → Nat → K → Option (DenseMatrix K))

/-- Writes the next value of a triangle to an entry and to its mirror image, and counts it. -/
def putMirroredBy? (values : List K) (col : Nat) (state : DenseMatrix K × Nat) (row : Nat) :
    Option (DenseMatrix K × Nat) := do
  let value ← values[state.2]?
  let upper ← put state.1 row col value
  let both ← put upper col row value
  return (both, state.2 + 1)

def fillTriangleBy? (start : DenseMatrix K) (side : Nat) (values : List K) :
    Option (DenseMatrix K) := do
  let columns := fun state col =>
    (List.range (col + 1)).foldlM (putMirroredBy? put values col) state
  let filled ← (List.range side).foldlM columns (start, 0)
  return filled.1

def putColumnwiseBy? (side : Nat) (matrix : DenseMatrix K) (numbered : K × Nat) :
    Option (DenseMatrix K) :=
  if side = 0 then none
  else put matrix (numbered.2 % side) (numbered.2 / side) numbered.1

def fillColumnsBy? (start : DenseMatrix K) (side : Nat) (values : List K) :
    Option (DenseMatrix K) :=
  values.zipIdx.foldlM (putColumnwiseBy? put side) start

end Loops

def fillTriangle? [Zero K] (side : Nat) (values : List K) : Option (DenseMatrix K) :=
  fillTriangleBy? put? (zeros side side) side values

def fillColumns? [Zero K] (side : Nat) (values : List K) : Option (DenseMatrix K) :=
  fillColumnsBy? put? (zeros side side) side values

section Filling

variable [Zero K] {side : Nat} {values : List K}

/-- A square that is filled by some values takes one more. -/
theorem putColumnwiseBy?_ofColumns {value : K} (room : values.length < side * side) :
    putColumnwiseBy? put? side (ofColumns side values) (value, values.length) =
      some (ofColumns side (values ++ [value])) := by
  have positive : 0 < side := Nat.pos_of_ne_zero fun zero => by simp [zero] at room
  have rowIn : values.length % side < side := Nat.mod_lt _ positive
  have colIn : values.length / side < side := Nat.div_lt_of_lt_mul room
  have parts : values.length / side * side + values.length % side = values.length :=
    Nat.div_add_mod' _ _
  unfold putColumnwiseBy? ofColumns
  rw [if_neg (by omega), put?_ofEntries rowIn colIn]
  refine congrArg some (ofEntries_congr fun row rowBelow col _ => ?_)
  have here : row = values.length % side ∧ col = values.length / side ↔
      col * side + row = values.length := by
    rw [← parts, place_eq_iff rowBelow rowIn, parts]
    exact And.comm
  by_cases written : col * side + row = values.length
  · rw [if_pos (here.mpr written), written]
    simp
  · rw [if_neg (written ∘ here.mp)]
    rcases Nat.lt_or_gt_of_ne written with before | after
    · simp only [List.getD_eq_getElem?_getD, List.getElem?_append_left before]
    · simp only [List.getD_eq_getElem?_getD]
      rw [List.getElem?_eq_none (by omega), List.getElem?_eq_none (by simp; omega)]

/-- A square can be filled by as many values as it has entries or by fewer; the others
stay zero. -/
theorem fillColumns?_eq (room : values.length ≤ side * side) :
    fillColumns? side values = some (ofColumns side values) := by
  induction values using List.reverseRecOn with
  | nil => rfl
  | append_singleton values value inductionHypothesis =>
    rw [List.length_append, List.length_singleton] at room
    have filled := inductionHypothesis (by omega)
    unfold fillColumns? fillColumnsBy? at *
    rw [List.zipIdx_append, List.foldlM_append, filled]
    show (putColumnwiseBy? put? side (ofColumns side values) (value, 0 + values.length) >>= pure) = _
    rw [Nat.zero_add, putColumnwiseBy?_ofColumns (by omega)]
    rfl

/-- A triangle that is filled by the values before a place takes the one at the place. -/
theorem putMirroredBy?_ofTriangle {row col : Nat} (upper : row ≤ col) (colIn : col < side)
    (length : values.length = triangularNumber side) :
    putMirroredBy? put? values col
        (ofTriangle side (values.take (triangularNumber col + row)), triangularNumber col + row)
        row =
      some (ofTriangle side (values.take (triangularNumber col + (row + 1))),
        triangularNumber col + (row + 1)) := by
  have present : triangularNumber col + row < values.length :=
    length ▸ triangle_place_lt upper colIn
  have next : values[triangularNumber col + row]? = some values[triangularNumber col + row] :=
    List.getElem?_eq_getElem present
  unfold putMirroredBy? ofTriangle
  dsimp only
  rw [next, Option.bind_eq_bind, Option.bind_some, put?_ofEntries (by omega) colIn,
    Option.bind_eq_bind, Option.bind_some, put?_ofEntries colIn (by omega)]
  refine congrArg (fun matrix => some (matrix, triangularNumber col + (row + 1)))
    (ofEntries_congr fun r _ c _ => ?_)
  have here : triangularNumber (max r c) + min r c = triangularNumber col + row ↔
      min r c = row ∧ max r c = col :=
    triangle_place_eq_iff (Nat.le_trans (Nat.min_le_left r c) (Nat.le_max_left r c)) upper
  by_cases written : triangularNumber (max r c) + min r c = triangularNumber col + row
  · have ends := here.mp written
    have either : (r = col ∧ c = row) ∨ (r = row ∧ c = col) := by omega
    have value : (values.take (triangularNumber col + (row + 1))).getD
        (triangularNumber (max r c) + min r c) 0 = values[triangularNumber col + row] := by
      rw [written, List.getD_eq_getElem?_getD, List.getElem?_take_of_lt (by omega), next]
      rfl
    refine Eq.trans ?_ value.symm
    rcases either with mirrored | direct
    · rw [if_pos mirrored]
    · rw [if_pos direct, ite_self]
  · have notMirrored : ¬ (r = col ∧ c = row) := fun ends => written (here.mpr (by omega))
    have notDirect : ¬ (r = row ∧ c = col) := fun ends => written (here.mpr (by omega))
    rw [if_neg notMirrored, if_neg notDirect]
    show (values.take _).getD (triangularNumber (max r c) + min r c) 0 = _
    simp only [List.getD_eq_getElem?_getD, List.getElem?_take]
    refine congrArg (Option.getD · 0) (if_congr ?_ rfl rfl)
    show triangularNumber (max r c) + min r c < _ ↔ triangularNumber (max r c) + min r c < _
    omega

variable (length : values.length = triangularNumber side)
include length

/-- The first rows of a column take the values up to them. -/
theorem fillColumn_eq {col : Nat} (colIn : col < side) {count : Nat} (upper : count ≤ col + 1) :
    (List.range count).foldlM (putMirroredBy? put? values col)
        (ofTriangle side (values.take (triangularNumber col)), triangularNumber col) =
      some (ofTriangle side (values.take (triangularNumber col + count)),
        triangularNumber col + count) := by
  induction count with
  | zero => rfl
  | succ count inductionHypothesis =>
    rw [List.range_succ, List.foldlM_append, inductionHypothesis (by omega)]
    show (putMirroredBy? put? values col _ count >>= pure) = _
    rw [putMirroredBy?_ofTriangle (by omega) colIn length]
    rfl

/-- The first columns take the values of a smaller triangle. -/
theorem fillColumns_eq {count : Nat} (within : count ≤ side) :
    (List.range count).foldlM
        (fun state col => (List.range (col + 1)).foldlM (putMirroredBy? put? values col) state)
        (zeros side side, 0) =
      some (ofTriangle side (values.take (triangularNumber count)), triangularNumber count) := by
  induction count with
  | zero => rfl
  | succ count inductionHypothesis =>
    rw [List.range_succ, List.foldlM_append, inductionHypothesis (by omega)]
    show ((List.range (count + 1)).foldlM (putMirroredBy? put? values count) _ >>= pure) = _
    rw [fillColumn_eq length within (Nat.le_refl _), triangularNumber_succ]
    rfl

/-- A triangle can be filled by as many values as it has places. -/
theorem fillTriangle?_eq : fillTriangle? side values = some (ofTriangle side values) := by
  unfold fillTriangle? fillTriangleBy?
  dsimp only
  rw [fillColumns_eq length (Nat.le_refl side), ← length, List.take_length]
  rfl

end Filling

end DenseMatrix

end ConicModel
