import ConicModel.Proofs.Expr.Value
import ConicModel.Proofs.Model.Line
import Mathlib.Algebra.Order.Ring.Rat

/-!
Contract: a comparison of expressions is satisfied exactly where their values compare.

Owns:
- `ConstraintSet.Admits`, the numbers that lie in a set;
- `ConstraintSet.Tells`, forms of sets that hold the numbers in a relation to their bound;
- `Constraint.Expresses`, a constraint with its constant moved into the set that is satisfied by
  the points with a property;
- the fact that every comparison expresses what it says, as it is built and as it is stored;
- the causes for which a comparison is not stored.

Does not own: comparisons of floats, where moving a constant to the other side rounds.

The right side is subtracted before the constant is moved, so both steps come down to one
fact: a relation stays the same when a number is added on both sides.
-/

namespace ConicModel

variable {R : Type}

/-! ## Sets of numbers -/

namespace ConstraintSet

/-- Whether a number lies in the set.  The members of a cone are vectors. -/
def Admits [Ring R] [LE R] : ConstraintSet R → R → Prop
  | lessThan bound, value => value ≤ bound
  | greaterThan bound, value => bound ≤ value
  | equalTo target, value => value = target
  | interval lower upper, value => lower ≤ value ∧ value ≤ upper
  | integer, value => ∃ whole : ℤ, value = whole
  | zeroOne, value => value = 0 ∨ value = 1
  | cone _ _, _ => False

/-- The sets of a form hold the numbers in a relation to their bound, move with it, and take
scalar functions of every degree. -/
structure Tells [Ring R] [LE R] [ExtendedNumber R] (form : R → ConstraintSet R)
    (relation : R → R → Prop) : Prop where
  admits : ∀ bound value, (form bound).Admits value ↔ relation value bound
  shifted : ∀ bound delta, (form bound).shifted delta = form (bound + delta)
  validate : ∀ bound, (form bound).validate = checkBound bound
  scalar : ∀ bound, (form bound).isScalar = true
  maxDegree : ∀ bound, (form bound).maxDegree = 2
  translate : ∀ value bound delta : R,
    relation (value + delta) (bound + delta) ↔ relation value bound

variable [CommRing R] [LinearOrder R] [IsOrderedRing R] [ExtendedNumber R]

theorem tells_lessThan : Tells (lessThan : R → ConstraintSet R) (· ≤ ·) where
  admits _ _ := Iff.rfl
  shifted _ _ := rfl
  validate _ := rfl
  scalar _ := rfl
  maxDegree _ := rfl
  translate _ _ _ := add_le_add_iff_right _

theorem tells_greaterThan : Tells (greaterThan : R → ConstraintSet R) (· ≥ ·) where
  admits _ _ := Iff.rfl
  shifted _ _ := rfl
  validate _ := rfl
  scalar _ := rfl
  maxDegree _ := rfl
  translate _ _ _ := add_le_add_iff_right _

theorem tells_equalTo : Tells (equalTo : R → ConstraintSet R) (· = ·) where
  admits _ _ := Iff.rfl
  shifted _ _ := rfl
  validate _ := rfl
  scalar _ := rfl
  maxDegree _ := rfl
  translate _ _ _ := add_left_inj _

end ConstraintSet

/-! ## What a comparison says -/

namespace Constraint

section Expresses

variable [CommRing R] [LinearOrder R]

/-- The constraint has one component, which has no constant, and a set of the form.  A point
satisfies it exactly if it has the property. -/
def Expresses (constraint : Constraint R) (form : R → ConstraintSet R)
    (property : (VariableId → R) → Prop) : Prop :=
  ∃ expr bound, constraint = ⟨.scalar expr, form bound⟩ ∧ expr.constant = 0 ∧
    ∀ point, ∃ value, expr.evaluate (fun id => some (point id)) = some value ∧
      ((form bound).Admits value ↔ property point)

variable {form : R → ConstraintSet R} {relation : R → R → Prop}
  {property : (VariableId → R) → Prop}

theorem Expresses.congr {constraint : Constraint R} (expresses : constraint.Expresses form property)
    {same : (VariableId → R) → Prop} (agree : ∀ point, property point ↔ same point) :
    constraint.Expresses form same := by
  obtain ⟨expr, bound, parts, constant, holds⟩ := expresses
  refine ⟨expr, bound, parts, constant, fun point => ?_⟩
  obtain ⟨value, evaluated, admits⟩ := holds point
  exact ⟨value, evaluated, admits.trans (agree point)⟩

/-- The canonical form keeps the constant, the set and every value. -/
theorem Expresses.normalized {constraint : Constraint R}
    (expresses : constraint.Expresses form property) :
    constraint.normalized.Expresses form property := by
  obtain ⟨expr, bound, rfl, constant, holds⟩ := expresses
  refine ⟨expr.normalized, bound, rfl, constant, fun point => ?_⟩
  obtain ⟨value, evaluated, admits⟩ := holds point
  refine ⟨value, ?_, admits⟩
  rw [← evaluated, Expr.evaluate_total, Expr.evaluate_total, Expr.valueAt_normalized]

variable [ExtendedNumber R] (tells : ConstraintSet.Tells form relation)
include tells

/-- Moving the constant into the set adds its opposite to the value and to the bound. -/
theorem expresses_compare (expr : Expr R) (bound : R) :
    (compare expr (form bound)).Expresses form fun point =>
      relation (expr.valueAt point) bound := by
  refine ⟨expr.withoutConstant, bound + -expr.constant, ?_, rfl, fun point => ?_⟩
  · unfold compare
    rw [tells.shifted]
  · have value : expr.withoutConstant.valueAt point = expr.valueAt point + -expr.constant := by
      unfold Expr.valueAt Expr.withoutConstant
      ring
    refine ⟨_, Expr.evaluate_total point _, ?_⟩
    rw [tells.admits, value, tells.translate]

/-- The difference of two expressions compares with zero as they compare with each other. -/
theorem expresses_difference (left right : Expr R) :
    (compare (left.sub right) (form 0)).Expresses form fun point =>
      relation (left.valueAt point) (right.valueAt point) := by
  refine (expresses_compare tells (left.sub right) 0).congr fun point => ?_
  rw [← tells.translate _ 0 (right.valueAt point), Expr.valueAt_sub, sub_add_cancel, zero_add]

end Expresses

end Constraint

/-! ## Storing a comparison -/

/-- What was added last is found under the id that it was given. -/
theorem Registry.WellFormed.content?_add {kind : EntityKind} {Content : Type}
    {registry : Registry kind Content} (wellFormed : registry.WellFormed) (content : Content) :
    (registry.add content).content? registry.nextId = some content := by
  have apart : ∀ other ∈ registry.entries, other.id ≠ registry.nextId := by
    intro other member same
    have below := wellFormed.below other member
    rw [same] at below
    exact Nat.lt_irrefl _ below
  let added : Entry kind Content := { id := registry.nextId, content := content }
  exact content?_at (show ∀ other ∈ registry.entries, other.id ≠ added.id from apart)

section Refusals

variable {K : Type}

theorem Model.exists_of_checkVariables {model : Model K} {cause : ModelError K} :
    ∀ {ids : List VariableId}, model.checkVariables ids = .error cause →
      ∃ id ∈ ids, model.vars.contains id = false ∧ cause = .unknownVariable id
  | [], refused => nomatch refused
  | id :: others, refused => by
    rw [checkVariables] at refused
    split at refused
    next =>
      obtain ⟨missing, mentioned, rest⟩ := exists_of_checkVariables refused
      exact ⟨missing, List.mem_cons_of_mem _ mentioned, rest⟩
    next absent =>
      cases refused
      exact ⟨id, List.mem_cons_self, by simpa using absent, rfl⟩

variable [ExtendedNumber K]

theorem Terms.isFinite_of_firstNonFinite? {Key : Type} {terms : Terms Key K} {number : K}
    (found : firstNonFinite? terms = some number) : ExtendedNumber.isFinite number = false := by
  simpa using List.find?_some found

/-- An expression is refused because of a number that is not finite. -/
theorem Expr.exists_of_checkFinite {expr : Expr K} {cause : ExprError K}
    (refused : expr.checkFinite = .error cause) :
    ∃ number, ExtendedNumber.isFinite number = false ∧ cause = .nonFinite number := by
  unfold checkFinite at refused
  split at refused
  next infinite =>
    cases refused
    exact ⟨expr.constant, by simpa using infinite, rfl⟩
  next =>
    split at refused
    next number found =>
      cases refused
      exact ⟨number, Terms.isFinite_of_firstNonFinite? found, rfl⟩
    next =>
      split at refused
      next number found =>
        cases refused
        exact ⟨number, Terms.isFinite_of_firstNonFinite? found, rfl⟩
      next => cases refused

/-- Why a model does not take a comparison: it mentions a variable that is not live, or some
number is not finite.  Exact numbers are all finite. -/
inductive Model.Obstacle (model : Model K) (constraint : Constraint K) : ModelError K → Prop where
  | variable (id : VariableId) (mentioned : id ∈ constraint.function.vars)
      (absent : model.vars.contains id = false) : Obstacle model constraint (.unknownVariable id)
  | bound (number : K) (infinite : ExtendedNumber.isFinite number = false) :
      Obstacle model constraint (.invalidConstraint (.nonFiniteBound number))
  | coefficient (number : K) (infinite : ExtendedNumber.isFinite number = false) :
      Obstacle model constraint (.invalidConstraint (.invalidFunction (.nonFinite number)))

end Refusals

namespace Constraint

variable [CommRing R] [LinearOrder R] [ExtendedNumber R] {form : R → ConstraintSet R}
  {relation : R → R → Prop} {property : (VariableId → R) → Prop}

/-- A scalar function in a set of the form passes the checks unless some number is not
finite. -/
theorem exists_of_validate (tells : ConstraintSet.Tells form relation) {expr : Expr R} {bound : R}
    {cause : SetError R} (refused : validate ⟨.scalar expr, form bound⟩ = .error cause) :
    ∃ number, ExtendedNumber.isFinite number = false ∧
      (cause = .nonFiniteBound number ∨ cause = .invalidFunction (.nonFinite number)) := by
  have shape : checkShape (.scalar expr) (form bound) = .ok () := by
    unfold checkShape
    rw [tells.scalar]
  have degree : checkDegree (.scalar expr) (form bound) = .ok () := by
    rw [checkDegree_eq_ok, tells.maxDegree]
    refine ConstraintFunction.degree_le_iff.mpr fun component member => ?_
    exact Expr.degree_le_iff.mpr ⟨fun _ => le_rfl, fun _ => by decide⟩
  have passed : validate ⟨.scalar expr, form bound⟩ = (form bound).validate >>= fun _ =>
      checkComponents [expr] := by
    unfold validate
    dsimp only [ConstraintFunction.components]
    rw [shape, degree]
    cases (form bound).validate with
    | error cause => rfl
    | ok _ => cases checkComponents [expr] <;> rfl
  rw [passed, tells.validate, ConstraintSet.checkBound] at refused
  cases finite : ExtendedNumber.isFinite bound with
  | false =>
    rw [finite] at refused
    cases refused
    exact ⟨bound, finite, .inl rfl⟩
  | true =>
    rw [finite] at refused
    change checkComponents [expr] = _ at refused
    unfold checkComponents at refused
    split at refused
    next reason infinite =>
      cases refused
      obtain ⟨number, isInfinite, rfl⟩ := Expr.exists_of_checkFinite infinite
      exact ⟨number, isInfinite, .inr rfl⟩
    next => cases refused

/-- Such a constraint is refused only because of a variable or of a number. -/
theorem obstacle_of_refused (tells : ConstraintSet.Tells form relation) {expr : Expr R} {bound : R}
    {model : Model R} {cause : ModelError R}
    (refused : model.apply (.addConstraint ⟨.scalar expr, form bound⟩) = .error cause) :
    model.Obstacle ⟨.scalar expr, form bound⟩ cause := by
  change model.addConstraint ⟨.scalar expr, form bound⟩ = _ at refused
  unfold Model.addConstraint at refused
  split at refused
  next reason invalid =>
    cases refused
    obtain ⟨number, infinite, rfl | rfl⟩ := exists_of_validate tells invalid
    · exact .bound number infinite
    · exact .coefficient number infinite
  next =>
    cases checked : model.checkVariables (ConstraintFunction.scalar expr).vars with
    | error missing =>
      rw [checked] at refused
      cases refused
      obtain ⟨id, mentioned, absent, rfl⟩ := Model.exists_of_checkVariables checked
      exact .variable id mentioned absent
    | ok _ =>
      rw [checked] at refused
      cases refused

/-- The constraint expresses the property.  A model that changes lead to stores its canonical
form, which expresses it too, unless there is an obstacle. -/
structure Endures (constraint : Constraint R) (form : R → ConstraintSet R)
    (property : (VariableId → R) → Prop) : Prop where
  built : constraint.Expresses form property
  stored : ∀ edits : List (Model.Edit R),
    let model := edits.foldl Model.attempt .empty
    match model.apply (.addConstraint constraint) with
    | .ok outcome => ∃ id, outcome.created = some (.con id) ∧
        outcome.model.getConstraint id = .ok constraint.normalized ∧
        constraint.normalized.Expresses form property
    | .error cause => model.Obstacle constraint cause

theorem Expresses.endures (tells : ConstraintSet.Tells form relation) {constraint : Constraint R}
    (expresses : constraint.Expresses form property) : constraint.Endures form property := by
  refine ⟨expresses, fun edits => ?_⟩
  have wellFormed : (edits.foldl Model.attempt .empty : Model R).WellFormed :=
    Model.wellFormed_empty.foldl_attempted edits
  generalize edits.foldl Model.attempt (.empty : Model R) = model at wellFormed
  dsimp only
  cases applied : model.apply (.addConstraint constraint) with
  | ok outcome =>
    cases Model.change_of_apply applied with
    | addConstraint _ valid live =>
      refine ⟨model.constraints.nextId, rfl, ?_, expresses.normalized⟩
      have stored := wellFormed.constraints.content?_add constraint.normalized
      unfold Model.getConstraint
      dsimp only [Model.touch]
      rw [stored]
    | updateBounds _ _ _ asked => cases asked
  | error cause =>
    obtain ⟨expr, bound, rfl, _⟩ := expresses
    exact obstacle_of_refused tells applied

variable [IsOrderedRing R]

/-- A comparison with a number or between expressions is a constraint on an expression without a
constant, in the set of its relation, that is satisfied exactly where the values compare; and so
is what is stored of it. -/
theorem comparisons_endure (left right : Expr R) (bound : R) :
    (∀ (expr : Expr R) (point : VariableId → R),
      expr.evaluate (fun id => some (point id)) = some (expr.valueAt point)) ∧
    (le left bound).Endures .lessThan (fun point => left.valueAt point ≤ bound) ∧
    (ge left bound).Endures .greaterThan (fun point => left.valueAt point ≥ bound) ∧
    (eq left bound).Endures .equalTo (fun point => left.valueAt point = bound) ∧
    (leExpr left right).Endures .lessThan
      (fun point => left.valueAt point ≤ right.valueAt point) ∧
    (geExpr left right).Endures .greaterThan
      (fun point => left.valueAt point ≥ right.valueAt point) ∧
    (eqExpr left right).Endures .equalTo
      (fun point => left.valueAt point = right.valueAt point) := by
  refine ⟨fun expr point => Expr.evaluate_total point expr, ?_, ?_, ?_, ?_, ?_, ?_⟩
  · exact (expresses_compare ConstraintSet.tells_lessThan left bound).endures
      ConstraintSet.tells_lessThan
  · exact (expresses_compare ConstraintSet.tells_greaterThan left bound).endures
      ConstraintSet.tells_greaterThan
  · exact (expresses_compare ConstraintSet.tells_equalTo left bound).endures
      ConstraintSet.tells_equalTo
  · exact (expresses_difference ConstraintSet.tells_lessThan left right).endures
      ConstraintSet.tells_lessThan
  · exact (expresses_difference ConstraintSet.tells_greaterThan left right).endures
      ConstraintSet.tells_greaterThan
  · exact (expresses_difference ConstraintSet.tells_equalTo left right).endures
      ConstraintSet.tells_equalTo

/-- Rational numbers are finite and defined. -/
instance : ExtendedNumber ℚ where
  isFinite _ := true
  isUndefined _ := false
  exceeds left right := decide (left > right)

def productPlusThree : Expr ℚ :=
  ⟨3, [(⟨0⟩, 2), (⟨1⟩, 1)], [((⟨1⟩, ⟨0⟩), 5)]⟩

def productPlusSeven : Expr ℚ :=
  ⟨7, [(⟨1⟩, 1)], [((⟨0⟩, ⟨1⟩), 2)]⟩

theorem comparisons_endure_products :
    let model : Model ℚ := [.addVariable .free .continuous,
      .addVariable .free .continuous].foldl Model.attempt .empty
    let stored : Constraint ℚ :=
      ⟨.scalar ⟨0, [(⟨0⟩, 2)], [((⟨0⟩, ⟨1⟩), 3)]⟩, .greaterThan 4⟩
    ∃ outcome, model.apply (.addConstraint (geExpr productPlusThree productPlusSeven)) =
        .ok outcome ∧ outcome.model.getConstraint ⟨0⟩ = .ok stored ∧
      stored.Expresses .greaterThan fun point =>
        productPlusThree.valueAt point ≥ productPlusSeven.valueAt point := by
  intro model stored
  obtain ⟨_, _, _, _, _, endures, _⟩ := comparisons_endure productPlusThree productPlusSeven 0
  have change : model.Change (.addConstraint (geExpr productPlusThree productPlusSeven)) _ :=
    .addConstraint _ (by decide +kernel) (by decide +kernel)
  have accepted := change.apply_eq
  have kept := endures.stored [.addVariable .free .continuous, .addVariable .free .continuous]
  have same : (geExpr productPlusThree productPlusSeven).normalized = stored := by decide +kernel
  rw [same] at accepted
  dsimp only at kept
  rw [accepted, same] at kept
  obtain ⟨id, created, present, expresses⟩ := kept
  cases created
  exact ⟨_, accepted, present, expresses⟩

end Constraint

end ConicModel
