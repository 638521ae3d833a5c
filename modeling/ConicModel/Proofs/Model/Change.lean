import ConicModel.Model.Edit

/-!
Contract: everything that a successful change can do to a model.

Owns:
- `Model.Change`, with one case for each way in which a change can succeed, its
  guards and its result;
- the fact that `Model.apply` succeeds in these ways and in no other.

Does not own: what the guards are good for.

Invariants of models are proved by cases on `Model.Change`, so that no other
proof opens `apply` and the functions behind it.
-/

namespace ConicModel

variable {K : Type}

/-- What a change does to the bounds of which variable, if it is about bounds. -/
def Model.Edit.boundsUpdate? :
    Model.Edit K → Option (VariableId × (Bounds K → Except BoundConflict (Bounds K)))
  | .setLowerBound id value => some (id, Model.withLower value)
  | .setUpperBound id value => some (id, Model.withUpper value)
  | .deleteLowerBound id => some (id, fun bounds => .ok { bounds with lower := none })
  | .deleteUpperBound id => some (id, fun bounds => .ok { bounds with upper := none })
  | .fix id value force => some (id, Model.withFixed value force)
  | .unfix id => some (id, Model.withoutFixed)
  | _ => none

namespace Model

variable [ExtendedNumber K] [Zero K] [BEq K] [Add K]

/-- The ways in which a change of a model succeeds, with what they result in. -/
inductive Change (model : Model K) : Edit K → Outcome K → Prop where
  | addVariable (bounds : Bounds K) (category : Category)
      (sound : checkBounds model.vars.nextId bounds = .ok ()) :
      Change model (.addVariable bounds category)
        ⟨touch { model with vars := model.vars.add ⟨bounds, category⟩ },
          some (.var model.vars.nextId)⟩
  | addConstraint (constraint : Constraint K) (valid : constraint.validate = .ok ())
      (live : ∀ id ∈ constraint.function.vars, model.vars.contains id = true) :
      Change model (.addConstraint constraint)
        ⟨touch { model with constraints := model.constraints.add constraint.normalized },
          some (.con model.constraints.nextId)⟩
  | setObjective (sense : Sense) (expr : Expr K) (finite : expr.checkFinite = .ok ())
      (live : ∀ id ∈ expr.vars, model.vars.contains id = true) :
      Change model (.setObjective sense expr)
        ⟨touch { model with objective := some ⟨sense, expr.normalized⟩ }, none⟩
  | clearObjective (objective : Objective K) (present : model.objective = some objective) :
      Change model .clearObjective ⟨touch { model with objective := none }, none⟩
  | clearNoObjective (absent : model.objective = none) :
      Change model .clearObjective ⟨model, none⟩
  | removeVariable (id : VariableId) (live : model.vars.contains id = true) :
      Change model (.remove (.var id)) ⟨touch (dropVariable model id), none⟩
  | removeConstraint (id : ConstraintId) (live : model.constraints.contains id = true) :
      Change model (.remove (.con id))
        ⟨touch { model with constraints := model.constraints.remove id }, none⟩
  | updateBounds (edit : Edit K) (id : VariableId)
      (update : Bounds K → Except BoundConflict (Bounds K))
      (asked : edit.boundsUpdate? = some (id, update)) (found : Variable K)
      (present : model.vars.content? id = some found) (bounds : Bounds K)
      (updated : update found.bounds = .ok bounds) (sound : checkBounds id bounds = .ok ()) :
      Change model edit
        ⟨touch { model with vars := model.vars.setContent id { found with bounds := bounds } },
          none⟩
  | setCategory (id : VariableId) (category : Category) (found : Variable K)
      (present : model.vars.content? id = some found) :
      Change model (.setCategory id category)
        ⟨touch { model with
          vars := model.vars.setContent id { found with category := category } }, none⟩
  | clearName (entity : EntityRef) (live : model.contains entity = true) (name : String)
      (named : model.name? entity = some name) :
      Change model (.setName entity "") ⟨touch (putName model entity none), none⟩
  | clearNoName (entity : EntityRef) (live : model.contains entity = true)
      (unnamed : model.name? entity = none) :
      Change model (.setName entity "") ⟨model, none⟩
  | setName (entity : EntityRef) (live : model.contains entity = true) (name : String)
      (filled : name ≠ "") (valid : isValidName name = true)
      (unheld : model.holder? entity.kind name = none) :
      Change model (.setName entity name) ⟨touch (putName model entity (some name)), none⟩
  | setSameName (entity : EntityRef) (live : model.contains entity = true) (name : String)
      (filled : name ≠ "") (valid : isValidName name = true)
      (held : model.holder? entity.kind name = some entity) :
      Change model (.setName entity name) ⟨model, none⟩
  | setVariableMetadata (id : VariableId) (metadata : Json)
      (live : model.vars.contains id = true) :
      Change model (.setMetadata (.var id) metadata)
        ⟨{ model with vars := model.vars.setMetadata id metadata }, none⟩
  | setConstraintMetadata (id : ConstraintId) (metadata : Json)
      (live : model.constraints.contains id = true) :
      Change model (.setMetadata (.con id) metadata)
        ⟨{ model with constraints := model.constraints.setMetadata id metadata }, none⟩

/-! ## Results of checks -/

/-- Whether a check was passed can be computed. -/
instance {Cause : Type} (result : Except Cause Unit) : Decidable (result = .ok ()) :=
  match result with
  | .ok () => isTrue rfl
  | .error _ => isFalse nofun

theorem bind_eq_ok {Cause First Second : Type} {first : Except Cause First}
    {next : First → Except Cause Second} {result : Second} :
    (first >>= next) = .ok result ↔ ∃ value, first = .ok value ∧ next value = .ok result := by
  cases first with
  | error cause =>
    constructor
    · intro impossible
      cases impossible
    · rintro ⟨_, impossible, _⟩
      cases impossible
  | ok value => exact ⟨fun done => ⟨value, rfl, done⟩, fun ⟨_, rfl, done⟩ => done⟩

omit [ExtendedNumber K] [Zero K] [BEq K] [Add K] in
theorem checkLive_eq_ok {model : Model K} {entity : EntityRef} :
    model.checkLive entity = .ok () ↔ model.contains entity = true := by
  unfold checkLive
  split <;> simp_all

omit [ExtendedNumber K] [Zero K] [BEq K] [Add K] in
theorem checkVariables_eq_ok {model : Model K} :
    ∀ {ids : List VariableId},
      model.checkVariables ids = .ok () ↔ ∀ id ∈ ids, model.vars.contains id = true
  | [] => ⟨fun _ _ member => absurd member List.not_mem_nil, fun _ => rfl⟩
  | id :: others => by
    rw [checkVariables, List.forall_mem_cons]
    by_cases live : model.vars.contains id = true
    · rw [if_pos live, checkVariables_eq_ok]
      exact ⟨fun rest => ⟨live, rest⟩, And.right⟩
    · rw [if_neg live]
      exact ⟨(nomatch ·), fun ⟨here, _⟩ => absurd here live⟩

omit [ExtendedNumber K] [Zero K] [BEq K] [Add K] in
theorem getVariable_eq_ok {model : Model K} {id : VariableId} {found : Variable K} :
    model.getVariable id = .ok found ↔ model.vars.content? id = some found := by
  unfold getVariable
  cases model.vars.content? id <;> simp

/-! ## The inversion -/

omit [Zero K] [BEq K] [Add K] in
theorem updateBounds_eq_ok {model : Model K} {id : VariableId}
    {update : Bounds K → Except BoundConflict (Bounds K)} {outcome : Outcome K} :
    model.updateBounds id update = .ok outcome ↔
      ∃ found bounds, model.vars.content? id = some found ∧ update found.bounds = .ok bounds ∧
        checkBounds id bounds = .ok () ∧
        outcome = ⟨touch { model with
          vars := model.vars.setContent id { found with bounds := bounds } }, none⟩ := by
  unfold updateBounds
  rw [bind_eq_ok]
  constructor
  · rintro ⟨found, got, updated⟩
    split at updated
    · cases updated
    · rename_i bounds asked
      obtain ⟨_, sound, done⟩ := bind_eq_ok.mp updated
      cases done
      exact ⟨found, bounds, getVariable_eq_ok.mp got, asked, sound, rfl⟩
  · rintro ⟨found, bounds, present, updated, sound, rfl⟩
    refine ⟨found, getVariable_eq_ok.mpr present, ?_⟩
    rw [updated]
    exact bind_eq_ok.mpr ⟨(), sound, rfl⟩

/-- A change that is about bounds is an update of bounds. -/
theorem apply_boundsUpdate {model : Model K} {edit : Edit K} {id : VariableId}
    {update : Bounds K → Except BoundConflict (Bounds K)}
    (asked : edit.boundsUpdate? = some (id, update)) :
    model.apply edit = model.updateBounds id update := by
  cases edit <;> cases asked <;> rfl

theorem change_of_setName {model : Model K} {entity : EntityRef} {name : String}
    {outcome : Outcome K} (applied : model.setName entity name = .ok outcome) :
    Change model (.setName entity name) outcome := by
  unfold setName at applied
  obtain ⟨_, checked, changed⟩ := bind_eq_ok.mp applied
  have live := checkLive_eq_ok.mp checked
  split at changed
  · rename_i cleared
    subst cleared
    split at changed
    · rename_i present
      cases changed
      obtain ⟨name, named⟩ := Option.isSome_iff_exists.mp present
      exact .clearName entity live name named
    · rename_i absent
      cases changed
      exact .clearNoName entity live (Option.not_isSome_iff_eq_none.mp absent)
  · rename_i filled
    split at changed
    · cases changed
    · rename_i refused
      have valid : isValidName name = true := by simpa using refused
      split at changed
      · rename_i holder held
        split at changed
        · rename_i same
          cases changed
          exact .setSameName entity live name filled valid (held.trans (congrArg some same))
        · cases changed
      · rename_i unheld
        cases changed
        exact .setName entity live name filled valid unheld

/-- A change succeeds in one of the ways of `Change`. -/
theorem change_of_apply {model : Model K} {edit : Edit K} {outcome : Outcome K}
    (applied : model.apply edit = .ok outcome) : Change model edit outcome := by
  have bounds : ∀ {id update}, edit.boundsUpdate? = some (id, update) →
      Change model edit outcome := by
    intro id update asked
    rw [apply_boundsUpdate asked] at applied
    obtain ⟨found, bounds, present, updated, sound, rfl⟩ := updateBounds_eq_ok.mp applied
    exact .updateBounds edit id update asked found present bounds updated sound
  cases edit with
  | addVariable given category =>
    obtain ⟨_, sound, done⟩ := bind_eq_ok.mp applied
    cases done
    exact .addVariable given category sound
  | addConstraint constraint =>
    change model.addConstraint constraint = _ at applied
    unfold addConstraint at applied
    split at applied
    · cases applied
    · rename_i valid
      obtain ⟨_, checked, done⟩ := bind_eq_ok.mp applied
      cases done
      exact .addConstraint constraint valid (checkVariables_eq_ok.mp checked)
  | setObjective sense expr =>
    change model.setObjective sense expr = _ at applied
    unfold setObjective at applied
    split at applied
    · cases applied
    · rename_i finite
      obtain ⟨_, checked, done⟩ := bind_eq_ok.mp applied
      cases done
      exact .setObjective sense expr finite (checkVariables_eq_ok.mp checked)
  | clearObjective =>
    cases applied
    unfold clearObjective
    cases present : model.objective with
    | some objective => exact .clearObjective objective present
    | none => exact .clearNoObjective present
  | remove entity =>
    obtain ⟨_, checked, done⟩ := bind_eq_ok.mp applied
    have live := checkLive_eq_ok.mp checked
    cases entity with
    | var id =>
      cases done
      exact .removeVariable id live
    | con id =>
      cases done
      exact .removeConstraint id live
  | setLowerBound id value => exact bounds rfl
  | setUpperBound id value => exact bounds rfl
  | deleteLowerBound id => exact bounds rfl
  | deleteUpperBound id => exact bounds rfl
  | fix id value force => exact bounds rfl
  | unfix id => exact bounds rfl
  | setCategory id category =>
    obtain ⟨found, got, done⟩ := bind_eq_ok.mp applied
    cases done
    exact .setCategory id category found (getVariable_eq_ok.mp got)
  | setName entity name => exact change_of_setName applied
  | setMetadata entity metadata =>
    obtain ⟨_, checked, done⟩ := bind_eq_ok.mp applied
    have live := checkLive_eq_ok.mp checked
    cases entity with
    | var id =>
      cases done
      exact .setVariableMetadata id metadata live
    | con id =>
      cases done
      exact .setConstraintMetadata id metadata live

/-- Each way of `Change` is open: `apply` succeeds with the given result. -/
theorem Change.apply_eq {model : Model K} {edit : Edit K} {outcome : Outcome K}
    (change : Change model edit outcome) : model.apply edit = .ok outcome := by
  cases change with
  | addVariable bounds category sound => exact bind_eq_ok.mpr ⟨(), sound, rfl⟩
  | addConstraint constraint valid live =>
    show model.addConstraint constraint = _
    unfold Model.addConstraint
    rw [valid]
    exact bind_eq_ok.mpr ⟨(), checkVariables_eq_ok.mpr live, rfl⟩
  | setObjective sense expr finite live =>
    show model.setObjective sense expr = _
    unfold Model.setObjective
    rw [finite]
    exact bind_eq_ok.mpr ⟨(), checkVariables_eq_ok.mpr live, rfl⟩
  | clearObjective objective present =>
    show Except.ok (Outcome.mk model.clearObjective none) = _
    unfold Model.clearObjective
    rw [present]
  | clearNoObjective absent =>
    show Except.ok (Outcome.mk model.clearObjective none) = _
    unfold Model.clearObjective
    rw [absent]
  | removeVariable id live => exact bind_eq_ok.mpr ⟨(), checkLive_eq_ok.mpr live, rfl⟩
  | removeConstraint id live => exact bind_eq_ok.mpr ⟨(), checkLive_eq_ok.mpr live, rfl⟩
  | updateBounds _ id update asked found present bounds updated sound =>
    rw [apply_boundsUpdate asked]
    exact updateBounds_eq_ok.mpr ⟨found, bounds, present, updated, sound, rfl⟩
  | setCategory id category found present =>
    exact bind_eq_ok.mpr ⟨found, getVariable_eq_ok.mpr present, rfl⟩
  | clearName entity live name named =>
    refine bind_eq_ok.mpr ⟨(), checkLive_eq_ok.mpr live, ?_⟩
    rw [if_pos rfl, named]
    rfl
  | clearNoName entity live unnamed =>
    refine bind_eq_ok.mpr ⟨(), checkLive_eq_ok.mpr live, ?_⟩
    rw [if_pos rfl, unnamed]
    rfl
  | setName entity live name filled valid unheld =>
    refine bind_eq_ok.mpr ⟨(), checkLive_eq_ok.mpr live, ?_⟩
    rw [if_neg filled, valid, unheld]
    rfl
  | setSameName entity live name filled valid held =>
    refine bind_eq_ok.mpr ⟨(), checkLive_eq_ok.mpr live, ?_⟩
    rw [if_neg filled, valid, held]
    exact if_pos rfl
  | setVariableMetadata id metadata live =>
    exact bind_eq_ok.mpr ⟨(), checkLive_eq_ok.mpr live, rfl⟩
  | setConstraintMetadata id metadata live =>
    exact bind_eq_ok.mpr ⟨(), checkLive_eq_ok.mpr live, rfl⟩

end Model

end ConicModel
