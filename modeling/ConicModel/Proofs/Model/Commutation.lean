import ConicModel.Proofs.Expr.Omission
import ConicModel.Proofs.Model.Validity

/-!
Contract: the removal of a variable, before or after a function is stored.

Owns:
- the canonical form of a constraint without a variable;
- the fact that both orders succeed together and end in the same model.

Does not own: the checks, or the sums of coefficients.

The function is stored without the variable either way.  In one order the terms go from the
canonical form, in the other from what was given.
-/

namespace ConicModel

variable {K : Type}

/-! ## Functions without a variable -/

theorem ConstraintFunction.map_map (function : ConstraintFunction K)
    (first second : Expr K → Expr K) :
    (function.map first).map second = function.map (second ∘ first) := by
  cases function with
  | scalar expr => rfl
  | vector components => exact congrArg vector List.map_map

/-- The canonical form of a constraint without a variable is its canonical form without the
variable. -/
theorem Constraint.normalized_withoutVariable [Zero K] [BEq K] [Add K]
    (constraint : Constraint K) (id : VariableId) :
    (constraint.withoutVariable id).normalized = constraint.normalized.withoutVariable id := by
  have components : Expr.normalized ∘ (fun expr : Expr K => expr.withoutVariable id) =
      (fun expr : Expr K => expr.withoutVariable id) ∘ Expr.normalized :=
    funext fun expr => expr.normalized_withoutVariable id
  unfold normalized withoutVariable
  simp only [ConstraintFunction.map_map, components]

theorem Constraint.mem_vars_withoutVariable {constraint : Constraint K}
    {dropped id : VariableId}
    (member : id ∈ (constraint.withoutVariable dropped).function.vars) :
    id ∈ constraint.function.vars ∧ id ≠ dropped := by
  obtain ⟨expr, stripped, mentioned⟩ := ConstraintFunction.mem_vars.mp member
  unfold withoutVariable at stripped
  rw [ConstraintFunction.components_map] at stripped
  obtain ⟨given, present, rfl⟩ := List.mem_map.mp stripped
  obtain ⟨was, different⟩ := Expr.mem_vars_withoutVariable mentioned
  exact ⟨ConstraintFunction.mem_vars.mpr ⟨given, present, was⟩, different⟩

theorem Registry.mapContent_add {kind : EntityKind} {Content : Type}
    (registry : Registry kind Content) (content : Content) (change : Content → Content) :
    (registry.add content).mapContent change = (registry.mapContent change).add (change content) := by
  simp [add, mapContent, nextId]

namespace Model

variable [ExtendedNumber K] [Zero K] [BEq K] [Add K]
  {model : Model K} {id : VariableId} {constraint : Constraint K} {sense : Sense} {expr : Expr K}
  {outcome : Outcome K}

omit [ExtendedNumber K] [Zero K] [BEq K] [Add K] in
/-- What was live and is another variable is live after a removal. -/
theorem contains_dropVariable {other : VariableId} (live : model.vars.contains other = true)
    (different : other ≠ id) : (touch (dropVariable model id)).vars.contains other = true :=
  Registry.contains_iff.mpr
    ((Registry.mem_ids_remove _).mpr ⟨Registry.contains_iff.mp live, different⟩)

/-! ## Both orders -/

/-- A live variable can still be removed after a change that leaves the variables as they are. -/
theorem remove_after (live : model.vars.contains id = true)
    (untouched : outcome.model.vars = model.vars) :
    outcome.model.apply (.remove (.var id)) = .ok ⟨touch (dropVariable outcome.model id), none⟩ :=
  (Change.removeVariable id (by rwa [untouched])).apply_eq

theorem untouched_by_addConstraint
    (accepted : model.apply (.addConstraint constraint) = .ok outcome) :
    outcome.created = some (.con model.constraints.nextId) ∧ outcome.model.vars = model.vars := by
  cases change_of_apply accepted with
  | addConstraint _ _ _ => exact ⟨rfl, rfl⟩
  | updateBounds _ _ _ asked => cases asked

theorem untouched_by_setObjective
    (accepted : model.apply (.setObjective sense expr) = .ok outcome) :
    outcome.model.vars = model.vars := by
  cases change_of_apply accepted with
  | setObjective _ _ _ _ => rfl
  | updateBounds _ _ _ asked => cases asked

/-- Once the variable is gone, the constraint is accepted without it, and the model is the one
that the removal makes of the model with the constraint. -/
theorem addConstraint_after_remove
    (accepted : model.apply (.addConstraint constraint) = .ok outcome) :
    (touch (dropVariable model id)).apply (.addConstraint (constraint.withoutVariable id)) =
      .ok ⟨touch (dropVariable outcome.model id), outcome.created⟩ := by
  cases change_of_apply accepted with
  | addConstraint _ valid live =>
    have validStripped := Constraint.validate_withoutVariable valid id
    have liveStripped : ∀ other ∈ (constraint.withoutVariable id).function.vars,
        (touch (dropVariable model id)).vars.contains other = true := by
      intro other mentioned
      obtain ⟨was, different⟩ := Constraint.mem_vars_withoutVariable mentioned
      exact contains_dropVariable (live other was) different
    rw [(Change.addConstraint _ validStripped liveStripped).apply_eq,
      constraint.normalized_withoutVariable id]
    unfold touch dropVariable
    rw [Registry.mapContent_add]
    rfl
  | updateBounds _ _ _ asked => cases asked

/-- Once the variable is gone, the objective is accepted without it, and the model is the one
that the removal makes of the model with the objective. -/
theorem setObjective_after_remove
    (accepted : model.apply (.setObjective sense expr) = .ok outcome) :
    (touch (dropVariable model id)).apply (.setObjective sense (expr.withoutVariable id)) =
      .ok ⟨touch (dropVariable outcome.model id), outcome.created⟩ := by
  cases change_of_apply accepted with
  | setObjective _ _ finite live =>
    have finiteStripped := Expr.checkFinite_withoutVariable finite id
    have liveStripped : ∀ other ∈ (expr.withoutVariable id).vars,
        (touch (dropVariable model id)).vars.contains other = true := by
      intro other mentioned
      obtain ⟨was, different⟩ := Expr.mem_vars_withoutVariable mentioned
      exact contains_dropVariable (live other was) different
    rw [(Change.setObjective _ _ finiteStripped liveStripped).apply_eq,
      expr.normalized_withoutVariable id]
    rfl
  | updateBounds _ _ _ asked => cases asked

/-- A live variable can be removed after an accepted constraint or objective, or before what is
left of it without the variable.  The constraint receives the same id and the model is the
same, with all its coefficients. -/
theorem remove_commutes (live : model.vars.contains id = true) :
    (∀ constraint added, model.apply (.addConstraint constraint) = .ok added →
      added.created = some (.con model.constraints.nextId) ∧ ∃ removed final,
        added.model.apply (.remove (.var id)) = .ok ⟨final, none⟩ ∧
        model.apply (.remove (.var id)) = .ok ⟨removed, none⟩ ∧
        removed.apply (.addConstraint (constraint.withoutVariable id)) =
          .ok ⟨final, added.created⟩) ∧
      ∀ sense expr aimed, model.apply (.setObjective sense expr) = .ok aimed →
        ∃ removed final,
          aimed.model.apply (.remove (.var id)) = .ok ⟨final, none⟩ ∧
          model.apply (.remove (.var id)) = .ok ⟨removed, none⟩ ∧
          removed.apply (.setObjective sense (expr.withoutVariable id)) =
            .ok ⟨final, aimed.created⟩ := by
  have removed := (Change.removeVariable id live).apply_eq
  constructor
  · intro constraint added accepted
    obtain ⟨created, untouched⟩ := untouched_by_addConstraint accepted
    exact ⟨created, _, _, remove_after live untouched, removed,
      addConstraint_after_remove accepted⟩
  · intro sense expr aimed accepted
    exact ⟨_, _, remove_after live (untouched_by_setObjective accepted), removed,
      setObjective_after_remove accepted⟩

def namedModel : Model Float :=
  [.addVariable .free .continuous, .addVariable .free .continuous,
    .addVariable .free .continuous, .remove (.var ⟨0⟩), .setName (.var ⟨2⟩) "y",
    .addConstraint ⟨.scalar ⟨0, [(⟨2⟩, 3), (⟨1⟩, 1)], []⟩, .lessThan 4⟩].foldl attempt empty

/-- A function that mentions variables more than once, also in pairs, with terms that cancel. -/
def repeating : Expr Float :=
  ⟨0.5, [(⟨2⟩, 1e308), (⟨1⟩, 0.1), (⟨2⟩, -1e308), (⟨1⟩, 0.2), (⟨1⟩, 0.3)],
    [((⟨2⟩, ⟨1⟩), 1), ((⟨1⟩, ⟨1⟩), 2), ((⟨1⟩, ⟨2⟩), -1)]⟩

theorem remove_commutes_repeating :
    namedModel.vars.contains ⟨2⟩ = true ∧
      ∃ (added : Outcome Float) (removed final : Model Float),
        namedModel.apply (.addConstraint ⟨.scalar repeating, .lessThan 1⟩) = .ok added ∧
        added.model.apply (.remove (.var ⟨2⟩)) = .ok ⟨final, none⟩ ∧
        namedModel.apply (.remove (.var ⟨2⟩)) = .ok ⟨removed, none⟩ ∧
        removed.apply (.addConstraint ⟨.scalar (repeating.withoutVariable ⟨2⟩), .lessThan 1⟩) =
          .ok ⟨final, some (.con ⟨1⟩)⟩ := by
  have live : namedModel.vars.contains ⟨2⟩ = true := by decide +kernel
  have change : Change namedModel (.addConstraint ⟨.scalar repeating, .lessThan 1⟩) _ :=
    .addConstraint _ (by decide +kernel) (by decide +kernel)
  have accepted := change.apply_eq
  obtain ⟨_, removed, final, later, earlier, same⟩ := (remove_commutes live).1 _ _ accepted
  exact ⟨live, _, removed, final, accepted, later, earlier, same⟩

end Model

end ConicModel
