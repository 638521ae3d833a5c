import ConicModel.Entity
import ConicModel.Scalar

/-!
Contract: lists of keyed coefficients, and their canonical form.

Owns:
- scaling, dropping and summing coefficients in stored order;
- `merged`, in which keys strictly increase, no coefficient is zero, and each
  coefficient is the sum, from the left and starting at zero, of the nonzero
  coefficients its key had.

Does not own: what the keys stand for.

Coefficients may be floats, so no sum is reordered.
-/

namespace ConicModel

/-- Coefficients with their keys, in the order in which they were written. -/
abbrev Terms (Key K : Type) := List (Key × K)

namespace Terms

variable {Key K : Type}

def nonzero [Zero K] [BEq K] (terms : Terms Key K) : Terms Key K :=
  terms.filter fun term => term.2 != 0

/-- Every coefficient multiplied by `factor`; products that are zero are
dropped. -/
def scale [Zero K] [BEq K] [Mul K] (factor : K) (terms : Terms Key K) : Terms Key K :=
  nonzero (terms.map fun term => (term.1, term.2 * factor))

/-- Adds `coefficient` at `key` in terms with increasing keys.  A key that is
not there yet starts from zero. -/
def addAt [DecidableEq Key] [Zero K] [Add K] (before : Key → Key → Bool)
    (key : Key) (coefficient : K) : Terms Key K → Terms Key K
  | [] => [(key, 0 + coefficient)]
  | (other, sum) :: terms =>
    if before key other then (key, 0 + coefficient) :: (other, sum) :: terms
    else if key = other then (other, sum + coefficient) :: terms
    else (other, sum) :: addAt before key coefficient terms

/-- The canonical form of terms under the key order `before`. -/
def merged [DecidableEq Key] [Zero K] [BEq K] [Add K] (before : Key → Key → Bool)
    (terms : Terms Key K) : Terms Key K :=
  nonzero ((nonzero terms).foldl (fun sums term => addAt before term.1 term.2 sums) [])

def firstNonFinite? [ExtendedNumber K] (terms : Terms Key K) : Option K :=
  (terms.map Prod.snd).find? fun coefficient => !ExtendedNumber.isFinite coefficient

end Terms

def VariableId.before (left right : VariableId) : Bool :=
  left.number < right.number

abbrev VariablePair := VariableId × VariableId

namespace VariablePair

/-- The pair with its smaller id first. -/
def ordered (pair : VariablePair) : VariablePair :=
  if pair.1.number ≤ pair.2.number then pair else (pair.2, pair.1)

def before (left right : VariablePair) : Bool :=
  left.1.number < right.1.number ||
    (left.1 == right.1 && left.2.number < right.2.number)

def mentions (id : VariableId) (pair : VariablePair) : Bool :=
  pair.1 == id || pair.2 == id

end VariablePair

end ConicModel
