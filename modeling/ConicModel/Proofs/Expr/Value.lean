import ConicModel.Proofs.Expr.Canonical
import Mathlib.Algebra.BigOperators.Group.List.Basic
import Mathlib.Algebra.BigOperators.Ring.List
import Mathlib.Logic.Function.Basic
import Mathlib.Tactic.Ring

/-!
Contract: what the algebra of expressions means over a commutative ring.

Owns:
- the value of terms and of an expression at a point, as a sum;
- the fact that evaluation at a total point gives this value;
- the value of what each operation on expressions gives, the canonical form included;
- the degrees of which expressions can be multiplied, and the degree of a product.

Does not own: sums of floats, which round and depend on the stored order.

A value of terms is a sum over them, so each operation is followed through its own traversal:
concatenation, a map that scales, a filter, or a fold that inserts at a key.
-/

namespace ConicModel

/-! ## The value of terms -/

namespace Terms

variable {Key R : Type} [CommRing R]

/-- The sum of the coefficients, each times the weight of its key. -/
def weigh (weight : Key → R) (terms : Terms Key R) : R :=
  (terms.map fun term => term.2 * weight term.1).sum

variable {weight : Key → R}

@[simp] theorem weigh_nil : weigh weight ([] : Terms Key R) = 0 := rfl

@[simp] theorem weigh_cons (key : Key) (coefficient : R) (terms : Terms Key R) :
    weigh weight ((key, coefficient) :: terms) =
      coefficient * weight key + weigh weight terms := by
  simp [weigh]

@[simp] theorem weigh_append (first second : Terms Key R) :
    weigh weight (first ++ second) = weigh weight first + weigh weight second := by
  simp [weigh]

/-- Keys that are renamed weigh what their new names do. -/
theorem weigh_map_key {Name : Type} (name : Key → Name) (weight : Name → R)
    (terms : Terms Key R) :
    weigh weight (terms.map fun term => (name term.1, term.2)) =
      weigh (fun key => weight (name key)) terms := by
  unfold weigh
  rw [List.map_map]
  rfl

/-- Keys that are left out weigh nothing. -/
theorem weigh_filter_key (keep : Key → Bool) (terms : Terms Key R) :
    weigh weight (terms.filter fun term => keep term.1) =
      weigh (fun key => if keep key then weight key else 0) terms := by
  induction terms with
  | nil => rfl
  | cons term terms inductionHypothesis =>
    obtain ⟨key, coefficient⟩ := term
    by_cases kept : keep key = true <;> simp [kept, inductionHypothesis]

/-- The products of all terms of two lists weigh the product of what the lists weigh. -/
theorem weigh_products {Other : Type} (weight : Key → R) (otherWeight : Other → R)
    (first : Terms Key R) (second : Terms Other R) :
    weigh (fun keys : Key × Other => weight keys.1 * otherWeight keys.2)
        (first.flatMap fun left =>
          second.map fun right => ((left.1, right.1), left.2 * right.2)) =
      weigh weight first * weigh otherWeight second := by
  have row : ∀ (key : Key) (coefficient : R) (terms : Terms Other R),
      weigh (fun keys : Key × Other => weight keys.1 * otherWeight keys.2)
          (terms.map fun right => ((key, right.1), coefficient * right.2)) =
        coefficient * weight key * weigh otherWeight terms := by
    intro key coefficient terms
    induction terms with
    | nil => simp
    | cons term terms inductionHypothesis =>
      rw [List.map_cons, weigh_cons, weigh_cons, inductionHypothesis]
      ring
  induction first with
  | nil => simp
  | cons term terms inductionHypothesis =>
    rw [List.flatMap_cons, weigh_append, weigh_cons, row, inductionHypothesis]
    ring

section Zeros

variable [DecidableEq R]

theorem weigh_nonzero (terms : Terms Key R) :
    weigh weight (nonzero terms) = weigh weight terms := by
  induction terms with
  | nil => rfl
  | cons term terms inductionHypothesis =>
    obtain ⟨key, coefficient⟩ := term
    unfold nonzero at *
    by_cases zero : coefficient = 0 <;> simp [zero, inductionHypothesis]

theorem weigh_scale (factor : R) (terms : Terms Key R) :
    weigh weight (scale factor terms) = weigh weight terms * factor := by
  unfold scale
  rw [weigh_nonzero]
  induction terms with
  | nil => simp
  | cons term terms inductionHypothesis =>
    rw [List.map_cons, weigh_cons, weigh_cons, inductionHypothesis]
    ring

end Zeros

section Merged

variable [DecidableEq Key] (before : Key → Key → Bool)

/-- Wherever the key finds its place, its coefficient is added. -/
theorem weigh_addAt (key : Key) (coefficient : R) (terms : Terms Key R) :
    weigh weight (addAt before key coefficient terms) =
      weigh weight terms + coefficient * weight key := by
  induction terms with
  | nil => simp [addAt]
  | cons term terms inductionHypothesis =>
    obtain ⟨other, sum⟩ := term
    rw [addAt]
    split
    · rw [weigh_cons, weigh_cons]
      ring
    · split
      next same =>
        rw [weigh_cons, weigh_cons, same]
        ring
      next =>
        rw [weigh_cons, weigh_cons, inductionHypothesis]
        ring

theorem weigh_foldl_addAt (terms sums : Terms Key R) :
    weigh weight (terms.foldl (fun sums term => addAt before term.1 term.2 sums) sums) =
      weigh weight sums + weigh weight terms := by
  induction terms generalizing sums with
  | nil => simp
  | cons term terms inductionHypothesis =>
    rw [List.foldl_cons, inductionHypothesis, weigh_addAt, weigh_cons]
    ring

/-- The canonical form of terms weighs what the terms do. -/
theorem weigh_merged [DecidableEq R] (terms : Terms Key R) :
    weigh weight (merged before terms) = weigh weight terms := by
  unfold merged
  rw [weigh_nonzero, weigh_foldl_addAt, weigh_nonzero, weigh_nil, zero_add]

end Merged

end Terms

namespace Expr

/-! ## Degrees -/

section Degrees

variable {K : Type}

theorem two_le_degree_iff (expr : Expr K) : 2 ≤ expr.degree ↔ expr.quadratic ≠ [] := by
  unfold degree
  by_cases quadratic : expr.quadratic = [] <;> by_cases linear : expr.linear = [] <;>
    simp [quadratic, linear]

theorem one_le_degree_iff (expr : Expr K) :
    1 ≤ expr.degree ↔ expr.linear ≠ [] ∨ expr.quadratic ≠ [] := by
  unfold degree
  by_cases quadratic : expr.quadratic = [] <;> by_cases linear : expr.linear = [] <;>
    simp [quadratic, linear]

theorem degree_le_iff {expr : Expr K} {bound : Nat} :
    expr.degree ≤ bound ↔
      (expr.quadratic ≠ [] → 2 ≤ bound) ∧ (expr.linear ≠ [] → 1 ≤ bound) := by
  unfold degree
  by_cases quadratic : expr.quadratic = [] <;> by_cases linear : expr.linear = [] <;>
    simp [quadratic, linear]
  omega

/-- Where the degrees add up to at most two, one factor is constant or both are affine. -/
theorem terms_of_degree_le_two {left right : Expr K} (bounded : left.degree + right.degree ≤ 2) :
    (left.linear = [] ∧ left.quadratic = []) ∨ (right.linear = [] ∧ right.quadratic = []) ∨
      (left.quadratic = [] ∧ right.quadratic = []) := by
  have leftPositive := one_le_degree_iff left
  have rightPositive := one_le_degree_iff right
  have leftSquare := two_le_degree_iff left
  have rightSquare := two_le_degree_iff right
  by_contra neither
  simp only [not_or, not_and_or] at neither
  obtain ⟨leftTerms, rightTerms, squares⟩ := neither
  have := leftPositive.mpr leftTerms
  have := rightPositive.mpr rightTerms
  rcases squares with square | square
  · have := leftSquare.mpr square
    omega
  · have := rightSquare.mpr square
    omega

theorem ne_nil_of_scale [Zero K] [BEq K] [Mul K] {Key : Type} {factor : K} {terms : Terms Key K}
    (given : Terms.scale factor terms ≠ []) : terms ≠ [] := by
  rintro rfl
  exact given rfl

theorem ne_nil_of_crossTerms [Mul K] {left right : Expr K} (given : crossTerms left right ≠ []) :
    left.linear ≠ [] ∧ right.linear ≠ [] := by
  unfold crossTerms at given
  constructor
  · intro empty
    exact given (by rw [empty, List.flatMap_nil])
  · intro empty
    exact given (by simp [empty])

/-- A product has terms of a degree only where its factors have such terms or, for squares,
where both are linear. -/
theorem degree_product_le [Zero K] [BEq K] [Add K] [Mul K] {left right result : Expr K}
    (multiplied : left.product right = .ok result) :
    result.degree ≤ left.degree + right.degree := by
  have leftSquare := two_le_degree_iff left
  have rightSquare := two_le_degree_iff right
  have leftPositive := one_le_degree_iff left
  have rightPositive := one_le_degree_iff right
  unfold product at multiplied
  split at multiplied
  · cases multiplied
  · obtain rfl := Except.ok.inj multiplied
    refine degree_le_iff.mpr ⟨fun squares => ?_, fun lines => ?_⟩
    · rcases not_and_or.mp (mt List.append_eq_nil_iff.mpr squares) with scaled | crossed
      · rcases not_and_or.mp (mt List.append_eq_nil_iff.mpr scaled) with first | second
        · have := leftSquare.mpr (ne_nil_of_scale first)
          omega
        · have := rightSquare.mpr (ne_nil_of_scale second)
          omega
      · obtain ⟨first, second⟩ := ne_nil_of_crossTerms crossed
        have := leftPositive.mpr (.inl first)
        have := rightPositive.mpr (.inl second)
        omega
    · rcases not_and_or.mp (mt List.append_eq_nil_iff.mpr lines) with first | second
      · have := leftPositive.mpr (.inl (ne_nil_of_scale first))
        omega
      · have := rightPositive.mpr (.inl (ne_nil_of_scale second))
        omega

end Degrees

/-! ## The value of an expression -/

section Values

variable {R : Type} [CommRing R] (point : VariableId → R)

def valueAt (expr : Expr R) : R :=
  expr.constant + Terms.weigh point expr.linear +
    Terms.weigh (fun pair : VariablePair => point pair.1 * point pair.2) expr.quadratic

theorem evaluateLinear_total (terms : Terms VariableId R) :
    ∀ total : R, evaluateLinear (fun id => some (point id)) total terms =
      some (total + Terms.weigh point terms) := by
  induction terms with
  | nil =>
    intro total
    rw [Terms.weigh_nil, add_zero]
    rfl
  | cons term terms inductionHypothesis =>
    obtain ⟨id, coefficient⟩ := term
    intro total
    refine (inductionHypothesis (total + coefficient * point id)).trans ?_
    rw [Terms.weigh_cons, add_assoc]

theorem evaluateQuadratic_total (terms : Terms VariablePair R) :
    ∀ total : R, evaluateQuadratic (fun id => some (point id)) total terms =
      some (total + Terms.weigh (fun pair => point pair.1 * point pair.2) terms) := by
  induction terms with
  | nil =>
    intro total
    rw [Terms.weigh_nil, add_zero]
    rfl
  | cons term terms inductionHypothesis =>
    obtain ⟨⟨left, right⟩, coefficient⟩ := term
    intro total
    refine (inductionHypothesis (total + coefficient * point left * point right)).trans ?_
    rw [Terms.weigh_cons, add_assoc, mul_assoc]

theorem evaluate_total (expr : Expr R) :
    expr.evaluate (fun id => some (point id)) = some (expr.valueAt point) := by
  have parts : expr.evaluate (fun id => some (point id)) =
      (evaluateLinear (fun id => some (point id)) expr.constant expr.linear).bind fun total =>
        evaluateQuadratic (fun id => some (point id)) total expr.quadratic := rfl
  rw [parts, evaluateLinear_total, Option.bind_some, evaluateQuadratic_total]
  rfl

theorem valueAt_add (left right : Expr R) :
    (left.add right).valueAt point = left.valueAt point + right.valueAt point := by
  unfold valueAt add
  rw [Terms.weigh_append, Terms.weigh_append]
  ring

theorem valueAt_zero : (zero : Expr R).valueAt point = 0 := by
  simp [valueAt, zero, const]

theorem valueAt_foldl_add (exprs : List (Expr R)) (first : Expr R) :
    (exprs.foldl add first).valueAt point =
      first.valueAt point + (exprs.map fun expr => expr.valueAt point).sum := by
  induction exprs generalizing first with
  | nil => simp
  | cons expr exprs inductionHypothesis =>
    rw [List.foldl_cons, inductionHypothesis, valueAt_add, List.map_cons, List.sum_cons, add_assoc]

theorem valueAt_sum (exprs : List (Expr R)) :
    (sum exprs).valueAt point = (exprs.map fun expr => expr.valueAt point).sum := by
  unfold sum
  rw [valueAt_foldl_add, valueAt_zero, zero_add]

theorem valueAt_addConstant (expr : Expr R) (shift : R) :
    (expr.addConstant shift).valueAt point = expr.valueAt point + shift := by
  unfold valueAt addConstant
  ring

/-- Leaving a variable out is the same as giving it the value zero. -/
theorem valueAt_withoutVariable (expr : Expr R) (id : VariableId) :
    (expr.withoutVariable id).valueAt point = expr.valueAt (Function.update point id 0) := by
  have linear : (fun key => if (key != id) = true then point key else 0) =
      Function.update point id 0 := by
    funext key
    by_cases same : key = id <;> simp [same]
  have quadratic :
      (fun pair : VariablePair =>
        if (!pair.mentions id) = true then point pair.1 * point pair.2 else 0) =
        fun pair => Function.update point id 0 pair.1 * Function.update point id 0 pair.2 := by
    funext pair
    by_cases first : pair.1 = id <;> by_cases second : pair.2 = id <;>
      simp [VariablePair.mentions, first, second]
  unfold valueAt withoutVariable
  rw [Terms.weigh_filter_key (fun key => key != id), linear,
    Terms.weigh_filter_key (fun pair => !VariablePair.mentions id pair), quadratic]

variable [DecidableEq R]

theorem valueAt_scale (expr : Expr R) (factor : R) :
    (expr.scale factor).valueAt point = expr.valueAt point * factor := by
  unfold valueAt scale
  rw [Terms.weigh_scale, Terms.weigh_scale]
  ring

theorem valueAt_neg (expr : Expr R) : expr.neg.valueAt point = -expr.valueAt point := by
  unfold neg
  rw [valueAt_scale, mul_neg_one]

theorem valueAt_sub (left right : Expr R) :
    (left.sub right).valueAt point = left.valueAt point - right.valueAt point := by
  unfold sub
  rw [valueAt_add, valueAt_neg, sub_eq_add_neg]

/-- The order within a pair does not matter, since multiplication is commutative. -/
theorem valueAt_normalized (expr : Expr R) :
    expr.normalized.valueAt point = expr.valueAt point := by
  have symmetric : (fun pair : VariablePair =>
      point (VariablePair.ordered pair).1 * point (VariablePair.ordered pair).2) =
        fun pair => point pair.1 * point pair.2 := by
    funext pair
    unfold VariablePair.ordered
    split
    · rfl
    · exact mul_comm _ _
  unfold valueAt normalized
  rw [Terms.weigh_merged, Terms.weigh_merged, Terms.weigh_map_key VariablePair.ordered
    (fun pair : VariablePair => point pair.1 * point pair.2), symmetric]

/-- The terms that a product leaves out, of degree above two, are not there. -/
theorem valueAt_product {left right result : Expr R}
    (multiplied : left.product right = .ok result) :
    result.valueAt point = left.valueAt point * right.valueAt point := by
  unfold product at multiplied
  split at multiplied
  next => cases multiplied
  next bounded =>
    obtain rfl := Except.ok.inj multiplied
    have crossed := Terms.weigh_products point point left.linear right.linear
    unfold valueAt scale add crossTerms
    dsimp only
    rw [Terms.weigh_append, Terms.weigh_append, Terms.weigh_append, Terms.weigh_scale,
      Terms.weigh_scale, Terms.weigh_scale, Terms.weigh_scale, crossed]
    rcases terms_of_degree_le_two (not_lt.mp bounded) with
      ⟨linear, quadratic⟩ | ⟨linear, quadratic⟩ | ⟨leftQuadratic, rightQuadratic⟩
    · rw [linear, quadratic, Terms.weigh_nil, Terms.weigh_nil]
      ring
    · rw [linear, quadratic, Terms.weigh_nil, Terms.weigh_nil]
      ring
    · rw [leftQuadratic, rightQuadratic, Terms.weigh_nil]
      ring

/-- Evaluation at a total point is a homomorphism for the algebra of expressions: sums,
differences, multiples, shifts and products of expressions have the sums, differences,
multiples, shifts and products of the values, the canonical form keeps the value, and a variable
that is left out counts as zero.  A product is refused exactly if the degrees add up to more
than two, and has no greater degree than they add up to. -/
theorem evaluate_operations (left right : Expr R) (exprs : List (Expr R)) (factor shift : R)
    (id : VariableId) :
    (∀ expr : Expr R, expr.evaluate (fun id => some (point id)) = some (expr.valueAt point)) ∧
    (left.add right).valueAt point = left.valueAt point + right.valueAt point ∧
    (left.sub right).valueAt point = left.valueAt point - right.valueAt point ∧
    left.neg.valueAt point = -left.valueAt point ∧
    (left.scale factor).valueAt point = factor * left.valueAt point ∧
    (left.addConstant shift).valueAt point = left.valueAt point + shift ∧
    (sum exprs).valueAt point = (exprs.map fun expr => expr.valueAt point).sum ∧
    left.normalized.valueAt point = left.valueAt point ∧
    (left.withoutVariable id).valueAt point = left.valueAt (Function.update point id 0) ∧
    match left.product right with
    | .error cause => 2 < left.degree + right.degree ∧
        cause = .degreeOverflow (left.degree + right.degree)
    | .ok result => left.degree + right.degree ≤ 2 ∧
        result.valueAt point = left.valueAt point * right.valueAt point ∧
        result.degree ≤ left.degree + right.degree := by
  refine ⟨evaluate_total point, valueAt_add point left right, valueAt_sub point left right,
    valueAt_neg point left, (valueAt_scale point left factor).trans (mul_comm _ _),
    valueAt_addConstant point left shift, valueAt_sum point exprs, valueAt_normalized point left,
    valueAt_withoutVariable point left id, ?_⟩
  cases multiplied : left.product right with
  | error cause =>
    unfold product at multiplied
    split at multiplied
    next exceeds => exact ⟨exceeds, (Except.error.inj multiplied).symm⟩
    next => cases multiplied
  | ok result =>
    refine ⟨?_, valueAt_product point multiplied, degree_product_le multiplied⟩
    unfold product at multiplied
    split at multiplied
    next => cases multiplied
    next bounded => exact not_lt.mp bounded

end Values

end Expr

end ConicModel
