import ConicModel.Constraint.Set
import ConicModel.Result.Matrix

/-!
Contract: the values of results, shaped by the set they belong to.

Owns:
- result values: numbers, vectors and matrices;
- `decode`, which shapes a flat vector, or names the length it should have.

Does not own: where a vector comes from.
-/

namespace ConicModel

inductive ResultValue (K : Type) where
  | scalar (value : K)
  | vector (values : List K)
  | matrix (entries : DenseMatrix K)
deriving BEq

/-- A vector whose length is not the dimension of its set. -/
structure LengthMismatch where
  set : String
  expected : Nat
  actual : Nat
deriving DecidableEq

def LengthMismatch.description (mismatch : LengthMismatch) : String :=
  s!"{mismatch.set} values must have length {mismatch.expected} (got {mismatch.actual})"

/-- Shapes the components of a value of `set`: a number for a scalar set, the
vector itself for a vector cone, and a matrix for a semidefinite cone. -/
def decode {K : Type} [Zero K] (set : ConstraintSet K) (values : List K) :
    Except LengthMismatch (ResultValue K) :=
  if values.length = set.dimension then
    match set.shape with
    | .scalar => .ok (.scalar (values.headD 0))
    | .vector _ => .ok (.vector values)
    | .triangle side => .ok (.matrix (.ofTriangle side values))
    | .square side => .ok (.matrix (.ofColumns side values))
  else .error ⟨set.name, set.dimension, values.length⟩

end ConicModel
