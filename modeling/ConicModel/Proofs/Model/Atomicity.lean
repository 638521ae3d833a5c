import ConicModel.Model.Writing
import ConicModel.Proofs.Expr.Omission
import ConicModel.Proofs.Model.Change
import ConicModel.Proofs.Session.Action

/-!
Contract: changes in place come to the same as changes.

Owns:
- what a sequence of writes amounts to;
- the agreement of `Model.enact` with `Model.apply`, in what is written and in what is refused;
- the fact that a refusal comes before the first write.

Does not own: sessions.
-/

namespace ConicModel

variable {K α : Type}

/-! ## Writes -/

/-- Nothing is lost by passing over a constraint in which the variable does not occur. -/
theorem Model.stripped_eq (id : VariableId) :
    (stripped id : Constraint K → Constraint K) = fun constraint => constraint.withoutVariable id := by
  funext constraint
  unfold stripped
  split
  · rfl
  · rename_i absent
    have unmentioned : ∀ expr ∈ constraint.function.components,
        expr.withoutVariable id = expr := by
      intro expr member
      refine Expr.withoutVariable_of_absent fun mentioned => absent ?_
      exact List.any_eq_true.mpr ⟨expr, member, List.contains_iff_mem.mpr mentioned⟩
    obtain ⟨function, set⟩ := constraint
    unfold Constraint.withoutVariable
    cases function with
    | scalar expr =>
      rw [ConstraintFunction.map, unmentioned expr List.mem_cons_self]
    | vector components =>
      have all : components.map (fun expr => expr.withoutVariable id) = components :=
        (List.map_congr_left unmentioned).trans (List.map_id' components)
      rw [ConstraintFunction.map, all]

/-- A name that is taken away and then given is given. -/
theorem Registry.setName_setName {kind : EntityKind} {Content : Type}
    (registry : Registry kind Content) (id : EntityId kind) (first second : Option String) :
    (registry.setName id first).setName id second = registry.setName id second := by
  unfold setName modify
  rw [List.map_map]
  congr 1
  refine List.map_congr_left fun entry _ => ?_
  dsimp only [Function.comp_apply]
  by_cases same : (entry.id == id) = true
  · simp only [if_pos same]
  · simp only [if_neg same]

theorem Model.putName_putName (model : Model K) (entity : EntityRef)
    (first second : Option String) :
    putName (putName model entity first) entity second = putName model entity second := by
  cases entity <;> simp [putName, Registry.setName_setName]

namespace Model

/-! ## Checks -/

theorem ends_check {question : Model K → Except (ModelError K) α} {model : Model K}
    {returned : α → Model K → Prop} {refused : ModelError K → Model K → Prop}
    (passed : ∀ value, question model = .ok value → returned value model)
    (failed : ∀ cause, question model = .error cause → refused cause model) :
    Ends (check question) model returned refused := by
  unfold Ends check
  cases asked : question model with
  | ok value => exact passed value asked
  | error cause => exact failed cause asked

theorem bind_of_passed {Cause First Second : Type} {first : Except Cause First}
    {next : First → Except Cause Second} {value : First} (passed : first = .ok value) :
    (first >>= next) = next value := by
  rw [passed]
  rfl

theorem bind_of_refused {Cause First Second : Type} {first : Except Cause First}
    {next : First → Except Cause Second} {cause : Cause} (refused : first = .error cause) :
    (first >>= next) = .error cause := by
  rw [refused]
  rfl

theorem mapError_eq_ok {Cause Other : Type} {result : Except Cause α} {embed : Cause → Other}
    {value : α} (done : result.mapError embed = .ok value) : result = .ok value := by
  cases result with
  | ok _ => cases done; rfl
  | error _ => cases done

theorem mapError_eq_error {Cause Other : Type} {result : Except Cause α} {embed : Cause → Other}
    {outer : Other} (failed : result.mapError embed = .error outer) :
    ∃ cause, result = .error cause ∧ embed cause = outer := by
  cases result with
  | ok _ => cases failed
  | error cause => cases failed; exact ⟨cause, rfl, rfl⟩

/-! ## Agreement -/

/-- An action does to a model what a result says, and a refusal has written nothing. -/
def Matches (action : Writing K (Option EntityRef)) (model : Model K)
    (result : Except (ModelError K) (Outcome K)) : Prop :=
  Ends action model (fun created after => result = .ok ⟨after, created⟩)
    fun cause after => result = .error cause ∧ after = model

theorem matches_removal (model : Model K) (entity : EntityRef) :
    Matches (enactRemoval entity) model (model.remove entity) := by
  cases entity with
  | var id =>
    refine ends_bind (ends_check ?_ fun cause refused => ⟨bind_of_refused refused, rfl⟩)
    intro _ live
    refine ends_bind (ends_modify (ends_bind (ends_modify (ends_bind (ends_modify
      (ends_bind (ends_modify (ends_pure ?_))))))))
    rw [stripped_eq]
    exact bind_eq_ok.mpr ⟨(), live, rfl⟩
  | con id =>
    refine ends_bind (ends_check ?_ fun cause refused => ⟨bind_of_refused refused, rfl⟩)
    intro _ live
    exact ends_bind (ends_modify (ends_bind (ends_modify (ends_pure
      (bind_eq_ok.mpr ⟨(), live, rfl⟩)))))

theorem matches_clearing (model : Model K) :
    Matches enactClearing model (.ok ⟨model.clearObjective, none⟩) := by
  unfold clearObjective
  apply ends_bind
  apply ends_get
  apply ends_bind
  apply ends_modify
  obtain ⟨vars, constraints, objective, generation⟩ := model
  cases objective with
  | some dropped => exact ends_bind (ends_modify (ends_pure rfl))
  | none => exact ends_pure rfl

theorem matches_category (model : Model K) (id : VariableId) (category : Category) :
    Matches (enactCategory id category) model (model.setCategory id category) := by
  refine ends_bind (ends_check ?_ fun cause refused => ⟨bind_of_refused refused, rfl⟩)
  intro found present
  exact ends_bind (ends_modify (ends_bind (ends_modify (ends_pure
    (bind_eq_ok.mpr ⟨found, present, rfl⟩)))))

theorem matches_metadata (model : Model K) (entity : EntityRef) (metadata : Json) :
    Matches (enactMetadata entity metadata) model (model.setMetadata entity metadata) := by
  refine ends_bind (ends_check ?_ fun cause refused => ⟨bind_of_refused refused, rfl⟩)
  intro _ live
  refine ends_bind (ends_modify (ends_pure (bind_eq_ok.mpr ⟨(), live, ?_⟩)))
  cases entity <;> rfl

theorem ends_eraseName (model : Model K) (entity : EntityRef) :
    Ends (eraseName entity) model
      (fun named after => named = (model.name? entity).isSome ∧
        after = if named then putName model entity none else model) fun _ _ => False := by
  apply ends_bind
  apply ends_get
  cases found : model.name? entity with
  | some name => exact ends_bind (ends_modify (ends_pure ⟨rfl, rfl⟩))
  | none => exact ends_pure ⟨rfl, rfl⟩

theorem ends_replaceName (model : Model K) (entity : EntityRef) (name : String) :
    Ends (replaceName entity name) model
      (fun _ after => after = putName model entity (some name)) fun _ _ => False := by
  apply ends_bind
  refine (ends_eraseName model entity).mono ?_ fun _ _ impossible => impossible
  rintro named _ ⟨_, rfl⟩
  refine ends_modify ?_
  cases named with
  | true => exact putName_putName model entity none (some name)
  | false => rfl

theorem matches_name (model : Model K) (entity : EntityRef) (name : String) :
    Matches (enactName entity name) model (model.setName entity name) := by
  refine ends_bind (ends_check ?_ fun cause refused => ⟨bind_of_refused refused, rfl⟩)
  intro _ live
  unfold setName
  simp only [bind_of_passed live]
  by_cases cleared : name = ""
  · simp only [if_pos cleared]
    apply ends_bind
    refine (ends_eraseName model entity).mono ?_ fun _ _ impossible => impossible.elim
    rintro named after ⟨rfl, rfl⟩
    cases (model.name? entity).isSome with
    | true => exact ends_bind (ends_modify (ends_pure rfl))
    | false => exact ends_pure rfl
  · simp only [if_neg cleared]
    cases valid : isValidName name with
    | false => exact ⟨rfl, rfl⟩
    | true =>
      refine ends_bind (ends_check ?_ fun _ impossible => by cases impossible)
      intro _ _
      apply ends_bind
      apply ends_get
      cases held : model.holder? entity.kind name with
      | some holder =>
        by_cases same : holder = entity
        · simp only [if_pos same]
          exact ends_pure rfl
        · simp only [if_neg same]
          exact ends_throw ⟨rfl, rfl⟩
      | none =>
        apply ends_bind
        refine (ends_replaceName model entity name).mono ?_ fun _ _ impossible => impossible.elim
        rintro _ _ rfl
        exact ends_bind (ends_modify (ends_pure rfl))

variable [ExtendedNumber K]

theorem matches_variable (model : Model K) (bounds : Bounds K) (category : Category) :
    Matches (enactVariable bounds category) model (model.addVariable bounds category) := by
  apply ends_bind
  apply ends_get
  refine ends_bind (ends_check ?_ fun cause refused => ⟨bind_of_refused refused, rfl⟩)
  intro _ sound
  exact ends_bind (ends_modify (ends_bind (ends_modify (ends_bind (ends_modify (ends_pure
    (bind_of_passed sound)))))))

theorem matches_bounds (model : Model K) (id : VariableId)
    (update : Bounds K → Except BoundConflict (Bounds K)) :
    Matches (enactBounds id update) model (model.updateBounds id update) := by
  refine ends_bind (ends_check ?_ fun cause refused => ⟨bind_of_refused refused, rfl⟩)
  intro found present
  unfold updateBounds
  simp only [bind_of_passed present]
  refine ends_bind (ends_check ?_ ?_)
  · intro bounds updated
    simp only [mapError_eq_ok updated]
    refine ends_bind (ends_check ?_ fun cause refused => ⟨bind_of_refused refused, rfl⟩)
    intro _ sound
    exact ends_bind (ends_modify (ends_bind (ends_modify (ends_pure (bind_of_passed sound)))))
  · intro cause refused
    obtain ⟨conflict, failed, rfl⟩ := mapError_eq_error refused
    rw [failed]
    exact ⟨rfl, rfl⟩

variable [Zero K] [BEq K] [Add K]

theorem matches_constraint (model : Model K) (constraint : Constraint K) :
    Matches (enactConstraint constraint) model (model.addConstraint constraint) := by
  unfold addConstraint
  refine ends_bind (ends_check ?_ ?_)
  · intro _ valid
    simp only [mapError_eq_ok valid]
    refine ends_bind (ends_check ?_ fun cause refused => ⟨bind_of_refused refused, rfl⟩)
    intro _ live
    apply ends_bind
    apply ends_get
    exact ends_bind (ends_modify (ends_bind (ends_modify (ends_bind (ends_modify (ends_pure
      (bind_of_passed live)))))))
  · intro cause refused
    obtain ⟨inner, failed, rfl⟩ := mapError_eq_error refused
    rw [failed]
    exact ⟨rfl, rfl⟩

theorem matches_objective (model : Model K) (sense : Sense) (expr : Expr K) :
    Matches (enactObjective sense expr) model (model.setObjective sense expr) := by
  unfold setObjective
  refine ends_bind (ends_check ?_ ?_)
  · intro _ finite
    simp only [mapError_eq_ok finite]
    refine ends_bind (ends_check ?_ fun cause refused => ⟨bind_of_refused refused, rfl⟩)
    intro _ live
    exact ends_bind (ends_modify (ends_bind (ends_modify (ends_pure (bind_of_passed live)))))
  · intro cause refused
    obtain ⟨inner, failed, rfl⟩ := mapError_eq_error refused
    rw [failed]
    exact ⟨rfl, rfl⟩

/-- In place or not, a change succeeds with the same model and is refused for the same cause,
and then nothing has been written. -/
theorem matches_enact (model : Model K) (edit : Edit K) :
    Matches (enact edit) model (model.apply edit) := by
  cases edit with
  | addVariable bounds category => exact matches_variable model bounds category
  | addConstraint constraint => exact matches_constraint model constraint
  | setObjective sense expr => exact matches_objective model sense expr
  | clearObjective => exact matches_clearing model
  | remove entity => exact matches_removal model entity
  | setLowerBound id value => exact matches_bounds model id _
  | setUpperBound id value => exact matches_bounds model id _
  | deleteLowerBound id =>
    exact matches_bounds model id fun bounds => .ok { bounds with lower := none }
  | deleteUpperBound id =>
    exact matches_bounds model id fun bounds => .ok { bounds with upper := none }
  | fix id value force => exact matches_bounds model id _
  | unfix id => exact matches_bounds model id _
  | setCategory id category => exact matches_category model id category
  | setName entity name => exact matches_name model entity name
  | setMetadata entity metadata => exact matches_metadata model entity metadata

end Model

end ConicModel
