import ConicModel.Proofs.Expr.Sum
import ConicModel.Proofs.Model.Generation

/-!
Contract: which models hold nothing but valid constraints and a finite objective.

Owns:
- valid models, in which what is stored passes the checks of what is given;
- the exact condition under which a change leaves a valid model valid;
- the exact condition under which all stages of a run are valid;
- a run whose changes pass all checks and whose model is not valid.

Does not own: the checks.

The checks see a function as it is given, and the model stores its canonical form, in which
the coefficients of a variable are summed.  Floats that are finite may have an infinite sum, and
nothing checks the sums.  So it is up to the caller that they are finite.
-/

namespace ConicModel

/-! ## Constraints -/

section Constraints

variable {K : Type} [ExtendedNumber K]

theorem Expr.checkFinite_withoutVariable {expr : Expr K} (finite : expr.checkFinite = .ok ())
    (id : VariableId) : (expr.withoutVariable id).checkFinite = .ok () := by
  obtain ⟨constant, linear, quadratic⟩ := checkFinite_eq_ok.mp finite
  refine checkFinite_eq_ok.mpr ⟨constant, ?_, ?_⟩
  · intro term member
    exact linear term (List.mem_of_mem_filter member)
  · intro term member
    exact quadratic term (List.mem_of_mem_filter member)

/-- A valid constraint stays valid without a variable. -/
theorem Constraint.validate_withoutVariable {constraint : Constraint K}
    (valid : constraint.validate = .ok ()) (id : VariableId) :
    (constraint.withoutVariable id).validate = .ok () :=
  validate_map valid (fun _ finite => Expr.checkFinite_withoutVariable finite id)
    fun expr => expr.degree_withoutVariable_le id

end Constraints

/-- What storing a valid constraint makes of it is valid exactly if its sums are finite. -/
theorem Constraint.validate_normalized {constraint : Constraint Float}
    (valid : constraint.validate = .ok ()) :
    constraint.normalized.validate = .ok () ↔
      ∀ expr ∈ constraint.function.components, expr.SumsFinite := by
  have stored : constraint.normalized.Stored constraint.function.vars :=
    stored_normalized valid fun _ mentioned => mentioned
  have finite := checkComponents_eq_ok.mp (Constraint.validate_eq_ok.mp valid).2.1
  rw [stored.validate_eq_ok]
  show (∀ expr ∈ (constraint.function.map Expr.normalized).components, _) ↔ _
  rw [ConstraintFunction.components_map, List.forall_mem_map]
  refine forall₂_congr fun expr member => ?_
  have constant := (Expr.checkFinite_eq_ok.mp (finite expr member)).1
  rw [Expr.checkFinite_normalized_eq_ok]
  exact and_iff_right constant

namespace Model

/-! ## Valid models -/

/-- Every constraint passes its checks, and the objective has finite numbers only. -/
structure Valid (model : Model Float) : Prop where
  constraints : ∀ id constraint, model.getConstraint id = .ok constraint →
    constraint.validate = .ok ()
  objective : ∀ objective, model.objective = some objective →
    objective.expr.checkFinite = .ok ()

/-- The sums that are stored when a change succeeds are finite. -/
def Edit.SumsFinite : Edit Float → Prop
  | .addConstraint constraint => ∀ expr ∈ constraint.function.components, expr.SumsFinite
  | .setObjective _ expr => expr.SumsFinite
  | _ => True

theorem getConstraint_eq_ok {K : Type} {model : Model K} {id : ConstraintId}
    {found : Constraint K} :
    model.getConstraint id = .ok found ↔ model.constraints.content? id = some found := by
  unfold getConstraint
  cases model.constraints.content? id <;> simp

section Step

variable {model : Model Float} {edit : Edit Float} {outcome : Outcome Float}

/-- Looking constraints up reaches all of them. -/
theorem WellFormed.valid_iff (wellFormed : model.WellFormed) :
    model.Valid ↔ (model.constraints.All fun constraint => constraint.validate = .ok ()) ∧
      ∀ objective, model.objective = some objective → objective.expr.checkFinite = .ok () := by
  constructor
  · intro valid
    refine ⟨?_, valid.objective⟩
    intro entry member
    refine valid.constraints entry.id entry.content (getConstraint_eq_ok.mpr ?_)
    rw [Registry.content?, wellFormed.constraints.entry?_eq member, Option.map_some]
  · rintro ⟨all, objective⟩
    refine ⟨?_, objective⟩
    intro id constraint found
    exact all.of_content? (getConstraint_eq_ok.mp found)

/-- A change leaves a valid model valid exactly if the sums it stores are finite. -/
theorem WellFormed.valid_iff_of_change (wellFormed : model.WellFormed) (valid : model.Valid)
    (change : Change model edit outcome) : outcome.model.Valid ↔ edit.SumsFinite := by
  rw [(wellFormed.change change).valid_iff]
  obtain ⟨constraints, objective⟩ := wellFormed.valid_iff.mp valid
  cases change with
  | addConstraint constraint accepted live =>
    refine Iff.trans ?_ (Constraint.validate_normalized accepted)
    constructor
    · intro all
      exact all.1 _ (List.mem_append_right _ (List.mem_singleton_self _))
    · intro new
      exact ⟨constraints.add new, objective⟩
  | setObjective sense expr finite live =>
    have constant := (Expr.checkFinite_eq_ok.mp finite).1
    constructor
    · intro all
      exact (Expr.checkFinite_normalized_eq_ok.mp (all.2 ⟨sense, expr.normalized⟩ rfl)).2
    · intro sums
      refine ⟨constraints, ?_⟩
      rintro _ ⟨⟩
      exact Expr.checkFinite_normalized_eq_ok.mpr ⟨constant, sums⟩
  | clearObjective present some => exact iff_of_true ⟨constraints, nofun⟩ trivial
  | removeVariable id live =>
    refine iff_of_true ⟨?_, ?_⟩ trivial
    · show (model.constraints.mapContent fun constraint => constraint.withoutVariable id).All _
      exact constraints.mapContent fun _ valid => Constraint.validate_withoutVariable valid id
    · intro kept present
      obtain ⟨old, was, rfl⟩ := Option.map_eq_some_iff.mp present
      exact Expr.checkFinite_withoutVariable (objective old was) id
  | removeConstraint id live => exact iff_of_true ⟨constraints.remove id, objective⟩ trivial
  | updateBounds _ id update asked found present bounds updated sound =>
    refine iff_of_true ⟨constraints, objective⟩ ?_
    cases edit <;> cases asked <;> trivial
  | clearName entity live name named =>
    refine iff_of_true ?_ trivial
    cases entity with
    | var id => exact ⟨constraints, objective⟩
    | con id => exact ⟨constraints.setName id none, objective⟩
  | setName entity live name filled accepted unheld =>
    refine iff_of_true ?_ trivial
    cases entity with
    | var id => exact ⟨constraints, objective⟩
    | con id => exact ⟨constraints.setName id (some name), objective⟩
  | setConstraintMetadata id metadata live =>
    exact iff_of_true ⟨constraints.setMetadata id metadata, objective⟩ trivial
  | _ => exact iff_of_true ⟨constraints, objective⟩ trivial

/-- Asking for a change leaves a valid model valid, unless the change succeeds with a sum that
is not finite. -/
theorem WellFormed.valid_attempt_iff (wellFormed : model.WellFormed) (valid : model.Valid) :
    (model.attempt edit).Valid ↔
      ∀ outcome, model.apply edit = .ok outcome → edit.SumsFinite := by
  unfold attempt
  split
  · rename_i outcome applied
    rw [wellFormed.valid_iff_of_change valid (change_of_apply applied), applied]
    exact ⟨fun sums _ _ => sums, fun sums => sums outcome rfl⟩
  · rename_i cause refused
    rw [refused]
    exact iff_of_true valid nofun

end Step

/-! ## Runs -/

theorem valid_empty : (empty : Model Float).Valid where
  constraints _ _ found := nomatch found
  objective _ present := nomatch present

/-- The models of a run are valid exactly if the first one is and every change that succeeds
has finite sums. -/
theorem valid_throughout_iff {start : Model Float} (reached : start.Reachable)
    (edits : List (Edit Float)) :
    (∀ count, (start.stage edits count).Valid) ↔
      start.Valid ∧ ∀ count edit outcome, edits[count]? = some edit →
        (start.stage edits count).apply edit = .ok outcome → edit.SumsFinite := by
  have step : ∀ {count edit}, edits[count]? = some edit → (start.stage edits count).Valid →
      ((start.stage edits (count + 1)).Valid ↔
        ∀ outcome, (start.stage edits count).apply edit = .ok outcome → edit.SumsFinite) := by
    intro count edit asked valid
    rw [stage_succ edits asked]
    exact (reached.at_stage edits count).wellFormed.valid_attempt_iff valid
  constructor
  · intro valid
    refine ⟨valid 0, ?_⟩
    intro count edit outcome asked applied
    exact (step asked (valid count)).mp (valid (count + 1)) outcome applied
  · rintro ⟨initial, sums⟩ count
    induction count with
    | zero => exact initial
    | succ count inductionHypothesis =>
      cases asked : edits[count]? with
      | none =>
        rw [stage_end edits (List.getElem?_eq_none_iff.mp asked)]
        exact inductionHypothesis
      | some edit =>
        refine (step asked inductionHypothesis).mpr ?_
        intro outcome applied
        exact sums count edit outcome asked applied

def summing : Constraint Float :=
  ⟨.scalar ⟨1, [(⟨0⟩, 1e308), (⟨0⟩, -1e308), (⟨0⟩, 1e308)],
    [((⟨0⟩, ⟨0⟩), 0.5), ((⟨0⟩, ⟨0⟩), 0.25)]⟩, .lessThan 1⟩

theorem valid_summing :
    (empty : Model Float).Reachable ∧
      ∀ count, (empty.stage [.addVariable .free .continuous, .addConstraint summing] count).Valid := by
  have sums : (Edit.addConstraint summing).SumsFinite := by
    have valid : summing.validate = .ok () := by decide +kernel
    exact (Constraint.validate_normalized valid).mp (by decide +kernel)
  refine ⟨.empty, (valid_throughout_iff .empty _).mpr ⟨valid_empty, ?_⟩⟩
  intro count edit outcome asked _
  have member := List.mem_of_getElem? asked
  rw [List.mem_cons, List.mem_singleton] at member
  rcases member with rfl | rfl
  · trivial
  · exact sums

def overflowing : Constraint Float :=
  ⟨.scalar ⟨0, [(⟨0⟩, 1e308), (⟨0⟩, 1e308)], []⟩, .lessThan 1⟩

/-- A constraint that passes all checks may be stored as one that fails them. -/
theorem not_valid_overflowing :
    overflowing.validate = .ok () ∧
      (empty.stage [.addVariable .free .continuous, .addConstraint overflowing] 2).Reachable ∧
      ¬ (empty.stage [.addVariable .free .continuous, .addConstraint overflowing] 2).Valid := by
  have reached := Reachable.empty.at_stage
    [.addVariable .free .continuous, .addConstraint overflowing] 2
  refine ⟨by decide +kernel, reached, ?_⟩
  rw [reached.wellFormed.valid_iff]
  rintro ⟨all, _⟩
  revert all
  show ¬ ∀ entry ∈ _, _
  decide +kernel

end Model

end ConicModel
