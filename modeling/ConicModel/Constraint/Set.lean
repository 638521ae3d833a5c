import ConicModel.Expr.Basic

/-!
Contract: the sets that constraint functions are required to lie in.

Owns:
- scalar sets and cones, with their names, dimensions and shapes;
- the consistency of a set by itself;
- the written form of a set.

Does not own: the pairing of a set with a function.
-/

namespace ConicModel

inductive Cone where
  | zeros
  | nonnegatives
  | nonpositives
  /-- `(t, x)` with `t ≥ ‖x‖`. -/
  | secondOrder
  /-- `(t, u, x)` with `2tu ≥ ‖x‖²` and `t, u ≥ 0`. -/
  | rotatedSecondOrder
  /-- Semidefinite matrices by their upper triangle, column by column. -/
  | semidefiniteTriangle
  /-- Semidefinite matrices by all their entries, column by column. -/
  | semidefiniteSquare
deriving DecidableEq

def triangularNumber (side : Nat) : Nat :=
  side * (side + 1) / 2

inductive SetShape where
  | scalar
  | vector (length : Nat)
  | triangle (side : Nat)
  | square (side : Nat)
deriving DecidableEq

namespace Cone

def name : Cone → String
  | zeros => "Zeros"
  | nonnegatives => "Nonnegatives"
  | nonpositives => "Nonpositives"
  | secondOrder => "SecondOrderCone"
  | rotatedSecondOrder => "RotatedSecondOrderCone"
  | semidefiniteTriangle => "PositiveSemidefiniteConeTriangle"
  | semidefiniteSquare => "PositiveSemidefiniteConeSquare"

def all : List Cone :=
  [zeros, nonnegatives, nonpositives, secondOrder, rotatedSecondOrder, semidefiniteTriangle,
    semidefiniteSquare]

def ofName? (name : String) : Option Cone :=
  all.find? fun cone => cone.name == name

def dimension : Cone → Nat → Nat
  | semidefiniteTriangle, side => triangularNumber side
  | semidefiniteSquare, side => side * side
  | _, size => size

def shape : Cone → Nat → SetShape
  | semidefiniteTriangle, side => .triangle side
  | semidefiniteSquare, side => .square side
  | _, size => .vector size

def leastSize : Cone → Nat
  | rotatedSecondOrder => 2
  | _ => 1

end Cone

/-- A set that a constraint function is required to lie in.  The size of a
semidefinite cone is the side of its matrices. -/
inductive ConstraintSet (K : Type) where
  | lessThan (bound : K)
  | greaterThan (bound : K)
  | equalTo (value : K)
  | interval (lower upper : K)
  | integer
  | zeroOne
  | cone (kind : Cone) (size : Nat)
deriving DecidableEq, BEq

inductive SetError (K : Type) where
  | nonFiniteBound (value : K)
  | invalidInterval (lower upper : K)
  | coneTooSmall (set : String) (dimension minimum : Nat)
  | dimensionMismatch (set : String) (expected actual : Nat)
  | scalarExpected (set : String)
  | vectorExpected (set : String)
  | degreeUnsupported (set : String) (degree : Nat)
  | invalidFunction (cause : ExprError K)

namespace SetError

def code {K : Type} : SetError K → String
  | nonFiniteBound _ => "SET_NON_FINITE_BOUND"
  | invalidInterval _ _ => "SET_INVALID_INTERVAL"
  | coneTooSmall _ _ _ => "SET_CONE_TOO_SMALL"
  | dimensionMismatch _ _ _ => "SET_DIMENSION_MISMATCH"
  | scalarExpected _ => "SET_SCALAR_EXPECTED"
  | vectorExpected _ => "SET_VECTOR_EXPECTED"
  | degreeUnsupported _ _ => "SET_DEGREE_UNSUPPORTED"
  | invalidFunction _ => "SET_INVALID_FUNCTION"

def description : SetError Float → String
  | nonFiniteBound value => s!"bound {displayText value} is not finite"
  | invalidInterval lower upper =>
    s!"interval lower ({displayText lower}) > upper ({displayText upper})"
  | coneTooSmall set dimension minimum =>
    s!"{set} needs dimension >= {minimum} (got {dimension})"
  | dimensionMismatch set expected actual =>
    s!"{set} expects {expected} components (got {actual})"
  | scalarExpected set => s!"{set} takes a scalar function"
  | vectorExpected set => s!"{set} takes a vector function"
  | degreeUnsupported set degree => s!"{set} does not accept degree {degree} functions"
  | invalidFunction cause => cause.message

def message (error : SetError Float) : String :=
  s!"[{error.code}] {error.description}"

end SetError

namespace ConstraintSet

variable {K : Type}

def name : ConstraintSet K → String
  | lessThan _ => "LessThan"
  | greaterThan _ => "GreaterThan"
  | equalTo _ => "EqualTo"
  | interval _ _ => "Interval"
  | integer => "Integer"
  | zeroOne => "ZeroOne"
  | cone kind _ => kind.name

def isScalar : ConstraintSet K → Bool
  | cone _ _ => false
  | _ => true

def dimension : ConstraintSet K → Nat
  | cone kind size => kind.dimension size
  | _ => 1

def shape : ConstraintSet K → SetShape
  | cone kind size => kind.shape size
  | _ => .scalar

def maxDegree : ConstraintSet K → Nat
  | integer => 1
  | zeroOne => 1
  | cone _ _ => 1
  | _ => 2

def checkBound [ExtendedNumber K] (value : K) : Except (SetError K) Unit :=
  if ExtendedNumber.isFinite value then .ok () else .error (.nonFiniteBound value)

/-- Refuses a set that is inconsistent by itself.  The ends of an interval may
be infinite. -/
def validate [ExtendedNumber K] : ConstraintSet K → Except (SetError K) Unit
  | lessThan bound => checkBound bound
  | greaterThan bound => checkBound bound
  | equalTo value => checkBound value
  | interval lower upper =>
    if ExtendedNumber.isUndefined lower || ExtendedNumber.isUndefined upper ||
        ExtendedNumber.exceeds lower upper then
      .error (.invalidInterval lower upper)
    else .ok ()
  | integer => .ok ()
  | zeroOne => .ok ()
  | cone kind size =>
    if size < kind.leastSize then .error (.coneTooSmall kind.name size kind.leastSize)
    else .ok ()

/-- The set with its bounds moved by `delta`; a set without bounds is kept. -/
def shifted [Add K] (delta : K) : ConstraintSet K → ConstraintSet K
  | lessThan bound => lessThan (bound + delta)
  | greaterThan bound => greaterThan (bound + delta)
  | equalTo value => equalTo (value + delta)
  | interval lower upper => interval (lower + delta) (upper + delta)
  | set => set

def parameters : ConstraintSet Float → List (List Char)
  | lessThan bound => [NumberLayout.plain.write bound]
  | greaterThan bound => [NumberLayout.plain.write bound]
  | equalTo value => [NumberLayout.plain.write value]
  | interval lower upper => [NumberLayout.plain.write lower, NumberLayout.plain.write upper]
  | integer => []
  | zeroOne => []
  | cone _ size => [decimalDigits size]

/-- The written form of a set: its name and, in parentheses, its parameters. -/
def chars (set : ConstraintSet Float) : List Char :=
  set.name.toList ++ '(' :: (Text.join [',', ' '] set.parameters ++ [')'])

def text (set : ConstraintSet Float) : String :=
  String.ofList set.chars

end ConstraintSet

end ConicModel
