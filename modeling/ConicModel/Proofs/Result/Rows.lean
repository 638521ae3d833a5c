import ConicModel.Result.Matrix
import Mathlib.Data.List.Basic

/-!
Contract: a matrix built from nested rows holds these rows, and gives them back unless they are
empty ones.

Owns:
- which nested rows are accepted, and the fields of the matrix that is built;
- the place of every entry;
- cutting the entries into rows again.

Does not own: matrices that are filled entry by entry.

Rows without entries leave nothing behind that could be cut, so their number is kept only as a
field of the matrix.
-/

namespace ConicModel.DenseMatrix

variable {K : Type} {rows : List (List K)} {width : Nat}

/-! ## Accepted rows -/

/-- Rows are accepted if they have one length, and are then stored one after the other. -/
theorem ofRows?_eq_some_iff {matrix : DenseMatrix K} :
    ofRows? rows = some matrix ↔ (∀ row ∈ rows, row.length = matrix.cols) ∧
      (rows = [] → matrix.cols = 0) ∧ matrix.rows = rows.length ∧ matrix.data = rows.flatten := by
  obtain ⟨count, cols, data⟩ := matrix
  have built : ofRows? rows = some ⟨count, cols, data⟩ ↔
      (∀ row ∈ rows, row.length = (rows.head?.map List.length).getD 0) ∧
        rows.length = count ∧ (rows.head?.map List.length).getD 0 = cols ∧
          rows.flatten = data := by
    unfold ofRows?
    simp only [Option.ite_none_right_eq_some, List.all_eq_true, beq_iff_eq, Option.some.injEq,
      DenseMatrix.mk.injEq]
  rw [built]
  cases rows with
  | nil =>
    simp only [List.not_mem_nil, false_implies, implies_true, true_and, List.head?_nil,
      Option.map_none, Option.getD_none, List.length_nil, List.flatten_nil]
    exact ⟨fun ⟨count, cols, data⟩ => ⟨fun _ => cols.symm, count.symm, data.symm⟩,
      fun ⟨cols, count, data⟩ => ⟨count.symm, (cols trivial).symm, data.symm⟩⟩
  | cons first others =>
    constructor
    · rintro ⟨equal, rfl, rfl, rfl⟩
      exact ⟨equal, nofun, rfl, rfl⟩
    · rintro ⟨equal, -, rfl, rfl⟩
      have leading : first.length = cols := equal first List.mem_cons_self
      exact ⟨fun row member => (equal row member).trans leading.symm, rfl, leading, rfl⟩

theorem exists_ofRows? (equal : ∀ row ∈ rows, row.length = width) :
    ∃ matrix, ofRows? rows = some matrix := by
  by_cases noRows : rows = []
  · exact ⟨⟨0, 0, []⟩, ofRows?_eq_some_iff.mpr (by simp [noRows])⟩
  · exact ⟨⟨rows.length, width, rows.flatten⟩,
      ofRows?_eq_some_iff.mpr ⟨equal, fun empty => absurd empty noRows, rfl, rfl⟩⟩

/-! ## Entries -/

theorem length_flatten (equal : ∀ row ∈ rows, row.length = width) :
    rows.flatten.length = rows.length * width := by
  induction rows with
  | nil => exact (Nat.zero_mul width).symm
  | cons first others inductionHypothesis =>
    obtain ⟨length, equalOthers⟩ := List.forall_mem_cons.mp equal
    rw [List.flatten_cons, List.length_append, inductionHypothesis equalOthers, length,
      List.length_cons, Nat.succ_mul, Nat.add_comm]

/-- An entry of the rows stands in their concatenation behind all rows before its own. -/
theorem getElem?_flatten (equal : ∀ row ∈ rows, row.length = width) {row col : Nat}
    (colIn : col < width) :
    rows.flatten[row * width + col]? = rows[row]?.bind (·[col]?) := by
  induction rows generalizing row with
  | nil => rfl
  | cons first others inductionHypothesis =>
    obtain ⟨length, equalOthers⟩ := List.forall_mem_cons.mp equal
    rw [List.flatten_cons]
    cases row with
    | zero =>
      rw [Nat.zero_mul, Nat.zero_add, List.getElem?_append_left (by omega)]
      rfl
    | succ row =>
      have place : (row + 1) * width + col = first.length + (row * width + col) := by
        rw [Nat.succ_mul, length]
        omega
      rw [place, List.getElem?_append_right (Nat.le_add_right _ _), Nat.add_sub_cancel_left]
      exact inductionHypothesis equalOthers

theorem get?_of_ofRows? {matrix : DenseMatrix K} (built : ofRows? rows = some matrix)
    (row col : Nat) : matrix.get? row col = rows[row]?.bind (·[col]?) := by
  obtain ⟨equal, -, count, data⟩ := ofRows?_eq_some_iff.mp built
  unfold get?
  split
  · next inside =>
    rw [data]
    exact getElem?_flatten equal inside.2
  · next outside =>
    cases found : rows[row]? with
    | none => rfl
    | some cells =>
      obtain ⟨rowIn, rfl⟩ := List.getElem?_eq_some_iff.mp found
      have length : rows[row].length = matrix.cols := equal _ (List.getElem_mem rowIn)
      exact (List.getElem?_eq_none (by omega)).symm

/-! ## Rows again -/

/-- Rows with entries are cut from their concatenation again. -/
theorem pieces_flatten (positive : 0 < width) (equal : ∀ row ∈ rows, row.length = width) :
    pieces width rows.length rows.flatten = rows := by
  induction rows with
  | nil => rfl
  | cons first others inductionHypothesis =>
    obtain ⟨length, equalOthers⟩ := List.forall_mem_cons.mp equal
    have filled : first ++ others.flatten ≠ [] := by
      intro empty
      rw [(List.append_eq_nil_iff.mp empty).1] at length
      exact absurd length (Nat.ne_of_lt positive)
    rw [List.length_cons, List.flatten_cons, pieces, List.take_left' length, List.drop_left' length,
      inductionHypothesis equalOthers]
    exact filled

theorem pieces_nil (count : Nat) : pieces width count ([] : List K) = [] := by
  cases count <;> rfl

/-- Nothing is cut from rows without entries. -/
theorem flatten_eq_nil_of_empty (equal : ∀ row ∈ rows, row.length = 0) : rows.flatten = [] :=
  List.flatten_eq_nil_iff.mpr fun row member => List.eq_nil_of_length_eq_zero (equal row member)

/-- The rows of a matrix that was built from rows: the same ones, or none if they have no
entries. -/
theorem toRows_of_ofRows? {matrix : DenseMatrix K} (built : ofRows? rows = some matrix) :
    matrix.toRows = if matrix.cols = 0 then [] else rows := by
  obtain ⟨equal, -, count, data⟩ := ofRows?_eq_some_iff.mp built
  unfold toRows
  rw [count, data]
  split
  · next empty =>
    rw [flatten_eq_nil_of_empty (empty ▸ equal), pieces_nil]
  · next filled =>
    have positive : 0 < matrix.cols := Nat.pos_of_ne_zero filled
    rw [Nat.max_eq_left positive]
    exact pieces_flatten positive equal

/-- Exactly the rows of one length are accepted; the matrix has their number, their width and
their entries, and it gives them back exactly if they have entries or there are none of them.
Rows without entries are lost. -/
theorem rows_recovered_iff (rows : List (List K)) :
    ((∃ matrix, ofRows? rows = some matrix) ↔ ∃ width, ∀ row ∈ rows, row.length = width) ∧
      ∀ matrix, ofRows? rows = some matrix →
        matrix.rows = rows.length ∧ (∀ row ∈ rows, row.length = matrix.cols) ∧
        (∀ row col, matrix.get? row col = rows[row]?.bind (·[col]?)) ∧
        (matrix.toRows = rows ↔ matrix.cols ≠ 0 ∨ rows = []) ∧
        (matrix.cols = 0 → matrix.toRows = []) := by
  refine ⟨⟨?_, fun ⟨_, equal⟩ => exists_ofRows? equal⟩, fun matrix built => ?_⟩
  · rintro ⟨matrix, built⟩
    exact ⟨matrix.cols, (ofRows?_eq_some_iff.mp built).1⟩
  · obtain ⟨equal, -, count, -⟩ := ofRows?_eq_some_iff.mp built
    have again := toRows_of_ofRows? built
    refine ⟨count, equal, get?_of_ofRows? built, ?_, fun empty => again.trans (if_pos empty)⟩
    rw [again]
    by_cases empty : matrix.cols = 0
    · rw [if_pos empty]
      exact ⟨fun lost => .inr lost.symm, fun kept => (kept.resolve_left (absurd empty)).symm⟩
    · rw [if_neg empty]
      exact ⟨fun _ => .inl empty, fun _ => rfl⟩

/-- Two rows of two entries come back. -/
theorem rows_recovered_square :
    ofRows? [[1.0, 2.0], [3.0, 4.0]] = some ⟨2, 2, [1.0, 2.0, 3.0, 4.0]⟩ ∧
      (⟨2, 2, [1.0, 2.0, 3.0, 4.0]⟩ : DenseMatrix Float).toRows = [[1.0, 2.0], [3.0, 4.0]] := by
  have built : ofRows? [[1.0, 2.0], [3.0, 4.0]] =
      some (⟨2, 2, [1.0, 2.0, 3.0, 4.0]⟩ : DenseMatrix Float) := rfl
  obtain ⟨-, -, -, again, -⟩ := (rows_recovered_iff _).2 _ built
  exact ⟨built, again.mpr (.inl (by decide))⟩

/-- Two rows without entries have one length and are accepted, but do not come back. -/
theorem not_recovered_emptyRows :
    ¬ ∀ rows : List (List Float), (∃ width, ∀ row ∈ rows, row.length = width) →
      ∃ matrix, ofRows? rows = some matrix ∧ matrix.toRows = rows := by
  intro recovered
  obtain ⟨matrix, built, again⟩ := recovered [[], []] ⟨0, by decide⟩
  cases built
  exact absurd (congrArg List.length again) (by decide)

end ConicModel.DenseMatrix
