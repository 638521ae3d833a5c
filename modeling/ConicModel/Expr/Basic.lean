import ConicModel.Decimal.Numeral
import ConicModel.Text.Split
import ConicModel.Expr.Terms

/-!
Contract: expressions of degree at most two over decision variables.

Owns:
- the stored form, a constant with linear and quadratic terms in the order in
  which they were written;
- the algebra on that form, and the degree bound of products;
- the canonical form and the value of an expression at a point.

Does not own: constraints, or which variables exist.

An operation concatenates terms and never merges them; only `normalized`
does.  `evaluate` adds from the left, so over floats its result is determined
by the stored order.
-/

namespace ConicModel

inductive ExprError (K : Type) where
  /-- Terms were given together with separate variables or coefficients. -/
  | mixedInputs
  /-- Neither terms nor both of variables and coefficients were given. -/
  | missingInputs
  /-- Variables and coefficients differ in number. -/
  | mismatchedLengths
  /-- A product would have the given degree. -/
  | degreeOverflow (degree : Nat)
  /-- The constant or a coefficient is infinite or undefined. -/
  | nonFinite (coefficient : K)

namespace ExprError

def code {K : Type} : ExprError K → String
  | mixedInputs => "EXPR_MIXED_INPUTS"
  | missingInputs => "EXPR_MISSING_INPUTS"
  | mismatchedLengths => "EXPR_MISMATCHED_LENGTHS"
  | degreeOverflow _ => "EXPR_DEGREE_OVERFLOW"
  | nonFinite _ => "EXPR_NON_FINITE"

def description : ExprError Float → String
  | mixedInputs => "Use either terms or variables/coefficients, not both"
  | missingInputs => "variables and coefficients are required"
  | mismatchedLengths => "variables and coefficients must have the same length"
  | degreeOverflow degree => s!"product has degree {degree}; at most 2 is supported"
  | nonFinite coefficient => s!"coefficient {displayText coefficient} is not finite"

def message (error : ExprError Float) : String :=
  s!"[{error.code}] {error.description}"

end ExprError

/-- The expression `constant + Σ c·x + Σ c·x·y`. -/
structure Expr (K : Type) where
  constant : K
  linear : Terms VariableId K
  quadratic : Terms VariablePair K
deriving DecidableEq

namespace Expr

variable {K : Type}

/-! ## Building -/

/-- A constant and linear terms, stored as given. -/
def affine (linear : Terms VariableId K) (constant : K) : Expr K :=
  ⟨constant, linear, []⟩

def const (constant : K) : Expr K :=
  ⟨constant, [], []⟩

def zero [Zero K] : Expr K :=
  const 0

/-- Linear terms, stored as given, with constant zero. -/
def ofLinear [Zero K] (linear : Terms VariableId K) : Expr K :=
  affine linear 0

def ofVariable [Zero K] [One K] (id : VariableId) : Expr K :=
  ofLinear [(id, 1)]

/-- One linear term; no term if the coefficient is zero. -/
def term [Zero K] [BEq K] (id : VariableId) (coefficient : K) : Expr K :=
  if coefficient == 0 then zero else ofLinear [(id, coefficient)]

/-- One quadratic term; no term if the coefficient is zero. -/
def quadraticTerm [Zero K] [BEq K] (left right : VariableId) (coefficient : K) : Expr K :=
  if coefficient == 0 then zero else ⟨0, [], [((left, right), coefficient)]⟩

/-- Linear terms from pairs, or from variables with as many coefficients; zero
coefficients are dropped.  The two ways exclude each other. -/
def linearTerms [Zero K] [BEq K] (terms : Option (Terms VariableId K))
    (vars : Option (List VariableId)) (coefficients : Option (List K)) :
    Except (ExprError K) (Expr K) :=
  match terms, vars, coefficients with
  | some terms, none, none => .ok (ofLinear (Terms.nonzero terms))
  | none, some vars, some coefficients =>
    if vars.length = coefficients.length then
      .ok (ofLinear (Terms.nonzero (vars.zip coefficients)))
    else .error .mismatchedLengths
  | none, _, _ => .error .missingInputs
  | some _, _, _ => .error .mixedInputs

/-! ## Reading -/

/-- The greatest degree of a stored term; zero without terms. -/
def degree (expr : Expr K) : Nat :=
  if expr.quadratic ≠ [] then 2 else if expr.linear ≠ [] then 1 else 0

/-- Every variable that a term mentions, in stored order, with repetitions. -/
def vars (expr : Expr K) : List VariableId :=
  expr.linear.map Prod.fst ++
    expr.quadratic.flatMap fun term => [term.1.1, term.1.2]

def mentions (expr : Expr K) (id : VariableId) : Bool :=
  expr.vars.contains id

def termCount (expr : Expr K) : Nat :=
  expr.linear.length + expr.quadratic.length

/-- Refuses an expression whose constant or some coefficient is not finite,
naming the first such number. -/
def checkFinite [ExtendedNumber K] (expr : Expr K) : Except (ExprError K) Unit :=
  if !ExtendedNumber.isFinite expr.constant then .error (.nonFinite expr.constant)
  else
    match Terms.firstNonFinite? expr.linear with
    | some coefficient => .error (.nonFinite coefficient)
    | none =>
      match Terms.firstNonFinite? expr.quadratic with
      | some coefficient => .error (.nonFinite coefficient)
      | none => .ok ()

/-! ## Algebra -/

/-- The constant and every coefficient multiplied by `factor`; terms that
become zero are dropped. -/
def scale [Zero K] [BEq K] [Mul K] (expr : Expr K) (factor : K) : Expr K :=
  ⟨expr.constant * factor, Terms.scale factor expr.linear, Terms.scale factor expr.quadratic⟩

/-- The sum; the terms of `left` come first. -/
def add [Add K] (left right : Expr K) : Expr K :=
  ⟨left.constant + right.constant, left.linear ++ right.linear,
    left.quadratic ++ right.quadratic⟩

def neg [Zero K] [One K] [Neg K] [BEq K] [Mul K] (expr : Expr K) : Expr K :=
  expr.scale (-1)

def sub [Zero K] [One K] [Neg K] [BEq K] [Add K] [Mul K] (left right : Expr K) : Expr K :=
  left.add right.neg

/-- The sum of expressions, from the left. -/
def sum [Zero K] [Add K] (exprs : List (Expr K)) : Expr K :=
  exprs.foldl add zero

def addConstant [Add K] (expr : Expr K) (value : K) : Expr K :=
  { expr with constant := expr.constant + value }

def withoutConstant [Zero K] (expr : Expr K) : Expr K :=
  { expr with constant := 0 }

/-- The products of each linear term of `left` with each of `right`. -/
def crossTerms [Mul K] (left right : Expr K) : Terms VariablePair K :=
  left.linear.flatMap fun first =>
    right.linear.map fun second => ((first.1, second.1), first.2 * second.2)

/-- The product, refused when the degrees add up to more than two. -/
def product [Zero K] [BEq K] [Add K] [Mul K] (left right : Expr K) :
    Except (ExprError K) (Expr K) :=
  if 2 < left.degree + right.degree then .error (.degreeOverflow (left.degree + right.degree))
  else
    let mixed := (left.scale right.constant).add (right.scale left.constant)
    .ok ⟨left.constant * right.constant, mixed.linear,
      mixed.quadratic ++ crossTerms left right⟩

def withoutVariable (expr : Expr K) (id : VariableId) : Expr K :=
  ⟨expr.constant, expr.linear.filter fun term => term.1 != id,
    expr.quadratic.filter fun term => !term.1.mentions id⟩

/-! ## Canonical form and value -/

/-- The canonical form: linear terms by increasing variable, pairs with the
smaller variable first and in increasing order, equal keys summed, and no zero
coefficient.  The constant is kept. -/
def normalized [Zero K] [BEq K] [Add K] (expr : Expr K) : Expr K :=
  ⟨expr.constant, Terms.merged VariableId.before expr.linear,
    Terms.merged VariablePair.before
      (expr.quadratic.map fun term => (VariablePair.ordered term.1, term.2))⟩

def evaluateLinear {m : Type → Type} [Monad m] [Add K] [Mul K] (value : VariableId → m K) :
    K → Terms VariableId K → m K
  | total, [] => pure total
  | total, (id, coefficient) :: terms => do
    let x ← value id
    evaluateLinear value (total + coefficient * x) terms

def evaluateQuadratic {m : Type → Type} [Monad m] [Add K] [Mul K] (value : VariableId → m K) :
    K → Terms VariablePair K → m K
  | total, [] => pure total
  | total, ((left, right), coefficient) :: terms => do
    let x ← value left
    let y ← value right
    evaluateQuadratic value (total + coefficient * x * y) terms

/-- The value of an expression when variables are read by `value`, one read
for each mention in stored order.  The first read that fails ends it. -/
def evaluateWith {m : Type → Type} [Monad m] [Add K] [Mul K] (expr : Expr K)
    (value : VariableId → m K) : m K := do
  let total ← evaluateLinear value expr.constant expr.linear
  evaluateQuadratic value total expr.quadratic

/-- The value at a point; none if some mentioned variable has no value. -/
def evaluate [Add K] [Mul K] (expr : Expr K) (value : VariableId → Option K) : Option K :=
  expr.evaluateWith value

end Expr

end ConicModel
