import ConicModel.Constraint.Set

/-!
Contract: constraints, which pair a function with a set.

Owns:
- functions with one component or with a list of them;
- the checks that a pair must pass, and their order;
- the comparisons between expressions, which move the constant into the set;
- the classification of constraints by function and set.

Does not own: the checks that depend on which variables exist.
-/

namespace ConicModel

inductive ConstraintFunction (K : Type) where
  | scalar (expr : Expr K)
  | vector (components : List (Expr K))
deriving DecidableEq

namespace ConstraintFunction

variable {K : Type}

/-- The components in order; a scalar function has one. -/
def components : ConstraintFunction K → List (Expr K)
  | scalar expr => [expr]
  | vector components => components

def dimension (function : ConstraintFunction K) : Nat :=
  function.components.length

def degree (function : ConstraintFunction K) : Nat :=
  (function.components.map Expr.degree).foldl max 0

def vars (function : ConstraintFunction K) : List VariableId :=
  function.components.flatMap Expr.vars

def mentions (function : ConstraintFunction K) (id : VariableId) : Bool :=
  function.components.any fun expr => expr.mentions id

def map (replace : Expr K → Expr K) : ConstraintFunction K → ConstraintFunction K
  | scalar expr => scalar (replace expr)
  | vector components => vector (components.map replace)

end ConstraintFunction

structure Constraint (K : Type) where
  function : ConstraintFunction K
  set : ConstraintSet K
deriving DecidableEq

namespace Constraint

variable {K : Type}

/-- Refuses components with numbers that are not finite, naming the first. -/
def checkComponents [ExtendedNumber K] : List (Expr K) → Except (SetError K) Unit
  | [] => .ok ()
  | expr :: others =>
    match expr.checkFinite with
    | .error cause => .error (.invalidFunction cause)
    | .ok () => checkComponents others

def checkShape (function : ConstraintFunction K) (set : ConstraintSet K) :
    Except (SetError K) Unit :=
  match function, set.isScalar with
  | .vector _, true => .error (.scalarExpected set.name)
  | .scalar _, false => .error (.vectorExpected set.name)
  | .vector components, false =>
    if components.length = set.dimension then .ok ()
    else .error (.dimensionMismatch set.name set.dimension components.length)
  | .scalar _, true => .ok ()

def checkDegree (function : ConstraintFunction K) (set : ConstraintSet K) :
    Except (SetError K) Unit :=
  if set.maxDegree < function.degree then
    .error (.degreeUnsupported set.name function.degree)
  else .ok ()

/-- The checks of a constraint: of the set, of the numbers, of the shape and of
the degree, in this order. -/
def validate [ExtendedNumber K] (constraint : Constraint K) : Except (SetError K) Unit := do
  constraint.set.validate
  checkComponents constraint.function.components
  checkShape constraint.function constraint.set
  checkDegree constraint.function constraint.set

def build [ExtendedNumber K] (function : ConstraintFunction K) (set : ConstraintSet K) :
    Except (SetError K) (Constraint K) :=
  match validate ⟨function, set⟩ with
  | .ok () => .ok ⟨function, set⟩
  | .error cause => .error cause

def normalized [Zero K] [BEq K] [Add K] (constraint : Constraint K) : Constraint K :=
  { constraint with function := constraint.function.map Expr.normalized }

/-- The constraint without the terms that mention `id`; its dimension is kept. -/
def withoutVariable (constraint : Constraint K) (id : VariableId) : Constraint K :=
  { constraint with function := constraint.function.map fun expr => expr.withoutVariable id }

/-! ## Comparisons -/

/-- The terms of `expr` in `set` moved by the opposite of its constant. -/
def compare [Zero K] [Neg K] [Add K] (expr : Expr K) (set : ConstraintSet K) : Constraint K :=
  ⟨.scalar expr.withoutConstant, set.shifted (-expr.constant)⟩

def le [Zero K] [Neg K] [Add K] (expr : Expr K) (bound : K) : Constraint K :=
  compare expr (.lessThan bound)

def ge [Zero K] [Neg K] [Add K] (expr : Expr K) (bound : K) : Constraint K :=
  compare expr (.greaterThan bound)

def eq [Zero K] [Neg K] [Add K] (expr : Expr K) (value : K) : Constraint K :=
  compare expr (.equalTo value)

def leExpr [Zero K] [One K] [Neg K] [BEq K] [Add K] [Mul K] (left right : Expr K) :
    Constraint K :=
  le (left.sub right) 0

def geExpr [Zero K] [One K] [Neg K] [BEq K] [Add K] [Mul K] (left right : Expr K) :
    Constraint K :=
  ge (left.sub right) 0

def eqExpr [Zero K] [One K] [Neg K] [BEq K] [Add K] [Mul K] (left right : Expr K) :
    Constraint K :=
  eq (left.sub right) 0

end Constraint

/-! ## Kinds -/

/-- Coarse classes of constraint functions, in increasing order. -/
inductive FunctionKind where
  | affine
  | quadratic
  | vectorAffine
deriving DecidableEq

namespace FunctionKind

def of {K : Type} : ConstraintFunction K → FunctionKind
  | .scalar expr => if expr.degree = 2 then quadratic else affine
  | .vector _ => vectorAffine

def word : FunctionKind → String
  | affine => "affine"
  | quadratic => "quadratic"
  | vectorAffine => "vector_affine"

def rank : FunctionKind → Nat
  | affine => 0
  | quadratic => 1
  | vectorAffine => 2

end FunctionKind

structure ConstraintKind where
  function : FunctionKind
  set : String
deriving DecidableEq

namespace ConstraintKind

def of {K : Type} (constraint : Constraint K) : ConstraintKind :=
  ⟨.of constraint.function, constraint.set.name⟩

/-- A kind as text, such as `affine-in-LessThan`. -/
def text (kind : ConstraintKind) : String :=
  s!"{kind.function.word}-in-{kind.set}"

/-- The order of kinds: by function class, then by set name. -/
def before (left right : ConstraintKind) : Bool :=
  left.function.rank < right.function.rank ||
    (left.function == right.function && left.set < right.set)

end ConstraintKind

end ConicModel
