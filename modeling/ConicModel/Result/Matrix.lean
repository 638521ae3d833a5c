/-!
Contract: small dense matrices.

Owns:
- matrices stored row by row;
- building from nested rows, from the upper triangle of a symmetric matrix and
  from the columns of a square one;
- reading an entry, the nested rows, and the test for symmetry.

Does not own: what a matrix stands for.

The dimensions and the entries are independent fields.  Every way of building
a matrix here makes them agree, and a reader of foreign data has to check.
-/

namespace ConicModel

/-- A matrix with its entries row by row. -/
structure DenseMatrix (K : Type) where
  rows : Nat
  cols : Nat
  data : List K
deriving BEq

namespace DenseMatrix

variable {K : Type}

def ofEntries (rows cols : Nat) (entry : Nat → Nat → K) : DenseMatrix K :=
  ⟨rows, cols, (List.range rows).flatMap fun row => (List.range cols).map (entry row)⟩

def zeros [Zero K] (rows cols : Nat) : DenseMatrix K :=
  ofEntries rows cols fun _ _ => 0

/-- The matrix of nested rows, if these have one length. -/
def ofRows? (rows : List (List K)) : Option (DenseMatrix K) :=
  let cols := (rows.head?.map List.length).getD 0
  if rows.all fun row => row.length == cols then some ⟨rows.length, cols, rows.flatten⟩
  else none

/-- The symmetric matrix whose upper triangle is given column by column. -/
def ofTriangle [Zero K] (side : Nat) (values : List K) : DenseMatrix K :=
  ofEntries side side fun row col =>
    values.getD (max row col * (max row col + 1) / 2 + min row col) 0

/-- The square matrix whose entries are given column by column. -/
def ofColumns [Zero K] (side : Nat) (values : List K) : DenseMatrix K :=
  ofEntries side side fun row col => values.getD (col * side + row) 0

def get? (matrix : DenseMatrix K) (row col : Nat) : Option K :=
  if row < matrix.rows ∧ col < matrix.cols then matrix.data[row * matrix.cols + col]? else none

/-- Cuts data into at most `count` pieces of one width, until it ends. -/
def pieces (width : Nat) : Nat → List K → List (List K)
  | 0, _ => []
  | _ + 1, [] => []
  | count + 1, data => data.take width :: pieces width count (data.drop width)

/-- The rows that hold entries, as lists.  A matrix without columns has none. -/
def toRows (matrix : DenseMatrix K) : List (List K) :=
  pieces (max matrix.cols 1) matrix.rows matrix.data

def isSymmetric [BEq K] (matrix : DenseMatrix K) : Bool :=
  matrix.rows == matrix.cols &&
    (List.range matrix.rows).all fun row =>
      (List.range row).all fun col => matrix.get? row col == matrix.get? col row

end DenseMatrix

end ConicModel
