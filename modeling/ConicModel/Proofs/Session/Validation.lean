import ConicModel.Proofs.Model.Atomicity
import ConicModel.Proofs.Session.Parity
import ConicModel.Proofs.Session.Refusal

/-!
Contract: arguments that no model accepts, in sessions with and without a model.

Owns:
- `Model.Edit.checkArgument`, what is checked of a change whatever the model holds;
- the fact that the model refuses what fails these checks, and for nothing else but an
  entity that is not live;
- which of these changes a session without a model refuses before it calls the solver.

Does not own: the checks of bounds, constraints and expressions.
-/

namespace ConicModel

def ModelError.isUnknown {K : Type} : ModelError K → Bool
  | .unknownVariable _ | .unknownConstraint _ => true
  | _ => false

namespace Model

variable {K : Type}

def Edit.bringsArgument : Edit K → Bool
  | .addVariable _ _ | .addConstraint _ | .setObjective _ _ => true
  | _ => false

def Edit.addsVariable : Edit K → Bool
  | .addVariable _ _ => true
  | _ => false

section Checks

variable [ExtendedNumber K]

/-- Checks the bounds, the constraint or the expression that a change brings.  A new variable
would get the given id. -/
def Edit.checkArgument (id : VariableId) : Edit K → Except (ModelError K) Unit
  | .addVariable bounds _ => checkBounds id bounds
  | .addConstraint constraint => constraint.validate.mapError .invalidConstraint
  | .setObjective _ expr => expr.checkFinite.mapError .invalidExpression
  | _ => .ok ()

/-- Bounds fail under one id as they do under another; only the id that is named differs. -/
theorem checkBounds_error {id : VariableId} {bounds : Bounds K} {cause : ModelError K}
    (failed : checkBounds id bounds = .error cause) (other : VariableId) :
    ∃ alike, checkBounds other bounds = .error alike ∧ alike.code = cause.code := by
  unfold checkBounds at failed ⊢
  split at failed
  · rename_i undefined
    cases failed
    exact ⟨_, if_pos undefined, rfl⟩
  · rename_i defined
    rw [if_neg defined]
    split at failed
    · rename_i doubled
      cases failed
      exact ⟨_, if_pos doubled, rfl⟩
    · rename_i single
      rw [if_neg single]
      split at failed
      · rename_i crossed
        cases failed
        exact ⟨_, if_pos crossed, rfl⟩
      · cases failed

theorem checkArgument_error {edit : Edit K} {id : VariableId} {cause : ModelError K}
    (failed : edit.checkArgument id = .error cause) (other : VariableId) :
    ∃ alike, edit.checkArgument other = .error alike ∧ alike.code = cause.code := by
  cases edit with
  | addVariable bounds category => exact checkBounds_error failed other
  | addConstraint constraint => exact ⟨cause, failed, rfl⟩
  | setObjective sense expr => exact ⟨cause, failed, rfl⟩
  | _ => cases failed

omit [ExtendedNumber K] in
theorem isUnknown_of_checkVariables {model : Model K} {cause : ModelError K} :
    ∀ {ids : List VariableId}, model.checkVariables ids = .error cause → cause.isUnknown = true
  | [], failed => nomatch failed
  | id :: others, failed => by
    rw [checkVariables] at failed
    split at failed
    · exact isUnknown_of_checkVariables failed
    · cases failed
      rfl

variable [Zero K] [BEq K] [Add K]

/-- A change whose argument fails is refused by every model. -/
theorem apply_of_checkArgument {model : Model K} {edit : Edit K} {cause : ModelError K}
    (failed : edit.checkArgument model.vars.nextId = .error cause) :
    model.apply edit = .error cause := by
  cases edit with
  | addVariable bounds category =>
    show (checkBounds model.vars.nextId bounds >>= _) = _
    have refused : checkBounds model.vars.nextId bounds = .error cause := failed
    rw [refused]
    rfl
  | addConstraint constraint =>
    show model.addConstraint constraint = _
    obtain ⟨reason, invalid, rfl⟩ := mapError_eq_error failed
    unfold addConstraint
    rw [invalid]
    rfl
  | setObjective sense expr =>
    show model.setObjective sense expr = _
    obtain ⟨reason, infinite, rfl⟩ := mapError_eq_error failed
    unfold setObjective
    rw [infinite]
    rfl
  | _ => cases failed

/-- A change that brings an argument is refused because the argument fails, or because an
entity is not live. -/
theorem checkArgument_of_apply {model : Model K} {edit : Edit K} {cause : ModelError K}
    (brings : edit.bringsArgument = true) (refused : model.apply edit = .error cause)
    (known : cause.isUnknown = false) :
    edit.checkArgument model.vars.nextId = .error cause := by
  have notLive : ∀ {ids : List VariableId} {next : Unit → Except (ModelError K) (Outcome K)},
      (∀ done cause, next done ≠ .error cause) →
      (model.checkVariables ids >>= next) ≠ .error cause := by
    intro ids next succeeds failed
    cases checked : model.checkVariables ids with
    | ok done =>
      rw [checked] at failed
      exact succeeds done cause failed
    | error found =>
      rw [checked] at failed
      cases failed
      rw [isUnknown_of_checkVariables checked] at known
      cases known
  cases edit with
  | addVariable bounds category =>
    change (checkBounds model.vars.nextId bounds >>= _) = _ at refused
    show checkBounds model.vars.nextId bounds = _
    cases checked : checkBounds model.vars.nextId bounds with
    | ok done =>
      rw [checked] at refused
      cases refused
    | error found =>
      rw [checked] at refused
      cases refused
      rfl
  | addConstraint constraint =>
    change model.addConstraint constraint = _ at refused
    show constraint.validate.mapError _ = _
    unfold addConstraint at refused
    cases validated : constraint.validate with
    | ok done =>
      rw [validated] at refused
      exact absurd refused (notLive fun _ _ => nofun)
    | error reason =>
      rw [validated] at refused
      cases refused
      rfl
  | setObjective sense expr =>
    change model.setObjective sense expr = _ at refused
    show expr.checkFinite.mapError _ = _
    unfold setObjective at refused
    cases checked : expr.checkFinite with
    | ok done =>
      rw [checked] at refused
      exact absurd refused (notLive fun _ _ => nofun)
    | error reason =>
      rw [checked] at refused
      cases refused
      rfl
  | _ => cases brings

end Checks

end Model

namespace Session

variable {World Factory Instance : Type}

section Direct

variable {solver : Solver World Factory Instance} {session : Recorded World Factory Instance}

theorem step_of_forward (direct : session.isCached = false) {edit : Model.Edit Float}
    (holds : Except Error Answer → Recorded World Factory Instance → Prop)
    (ends : Ends (forward solver.recorded edit) session
      (fun created after => holds (.ok (.ofCreated created)) after)
      fun cause after => holds (.error cause) after) :
    holds (step solver.recorded session (.edit edit)).outcome
      (step solver.recorded session (.edit edit)).after := by
  apply Step.of_ends
  apply ends_bind
  unfold Ends
  rw [edit_of_direct direct]
  refine ends.mono ?_ fun _ _ refused => refused
  intro created after answered
  cases created <;> exact answered

/-- A constraint or an objective that fails is refused before the solver is called. -/
theorem forward_of_checkArgument {edit : Model.Edit Float} {id : VariableId}
    {cause : ModelError Float} (failed : edit.checkArgument id = .error cause)
    (other : edit.addsVariable = false) :
    forward solver.recorded edit session = .error (.model cause) session := by
  cases edit with
  | addVariable bounds category => cases other
  | addConstraint constraint =>
    obtain ⟨reason, invalid, rfl⟩ := Model.mapError_eq_error failed
    unfold forward
    dsimp only
    rw [invalid]
    rfl
  | setObjective sense expr =>
    obtain ⟨reason, infinite, rfl⟩ := Model.mapError_eq_error failed
    unfold forward
    dsimp only
    rw [infinite]
    rfl
  | _ => cases failed

def variableAnswer : Except SolverError VariableIndex → Except Error Answer
  | .ok index => .ok (.entity (.var ⟨index.number⟩))
  | .error cause => .error (.solver cause)

/-- A variable is handed to the solver, and what the solver replies is the answer. -/
def HandsOver (session : Recorded World Factory Instance) (target : Tracked Factory Instance)
    (added : Variable Float) (outcome : Except Error Answer)
    (after : Recorded World Factory Instance) : Prop :=
  ∃ world reply, outcome = variableAnswer reply ∧
    after = { session with link := session.link.noted world target (.addVariable added reply) }

/-- A new variable is handed over whatever its bounds are. -/
theorem handsOver_addVariable (direct : session.isCached = false)
    {target : Tracked Factory Instance} (live : session.link.live = some target)
    (bounds : Bounds Float) (category : Category) :
    HandsOver session target ⟨bounds, category⟩
      (step solver.recorded session (.edit (.addVariable bounds category))).outcome
      (step solver.recorded session (.edit (.addVariable bounds category))).after := by
  apply step_of_forward direct (HandsOver session target ⟨bounds, category⟩)
  apply ends_bind
  show Ends (callLive fun target => Journal.recordOf target
    (fun inner => solver.addVariable inner ⟨bounds, category⟩) (.addVariable ⟨bounds, category⟩))
    session _ _
  apply ends_callLive live
  · exact fun index world => ends_pure ⟨world, .ok index, rfl, rfl⟩
  · exact fun cause world => ⟨world, .error cause, rfl, rfl⟩

/-- Without an instance nothing is handed over, and a new variable is refused for that. -/
theorem addVariable_of_unattached (direct : session.isCached = false)
    (absent : session.link.live = none) (bounds : Bounds Float) (category : Category) :
    (step solver.recorded session (.edit (.addVariable bounds category))).outcome =
      .error (.notAttached .solver) := by
  apply step_of_forward direct fun outcome _ => outcome = .error (.notAttached .solver)
  apply ends_bind
  apply ends_onLink
  apply ends_bind
  apply ends_bind
  apply ends_get
  rw [absent]
  exact ends_throw rfl

end Direct

/-- Take a change with bounds, a constraint or an expression that a session with a model
refuses, and not because an entity is not live.  Every model refuses it alike.  A session
without a model refuses a constraint or an objective with the same cause, before it calls the
solver; but it hands a new variable over, and never refuses it with a cause of a model. -/
theorem refused_without_model {World' Factory' Instance' : Type}
    {keeper : Solver World' Factory' Instance'} {cached : Session World' Factory' Instance'}
    (keeps : cached.isCached = true) {direct : Recorded World Factory Instance}
    (keepsNone : direct.isCached = false) {edit : Model.Edit Float}
    (brings : edit.bringsArgument = true) {cause : ModelError Float}
    (refused : (step keeper cached (.edit edit)).outcome = .error (.model cause))
    (known : cause.isUnknown = false) (solver : Solver World Factory Instance) :
    (∀ model : Model Float, ∃ alike, model.apply edit = .error alike ∧ alike.code = cause.code) ∧
      ((step solver.recorded direct (.edit edit)).outcome = .error (.model cause) ∧
          (step solver.recorded direct (.edit edit)).after = direct ↔
        edit.addsVariable = false) ∧
      ∀ bounds category target, edit = .addVariable bounds category →
        direct.link.live = some target →
        HandsOver direct target ⟨bounds, category⟩
          (step solver.recorded direct (.edit edit)).outcome
          (step solver.recorded direct (.edit edit)).after := by
  obtain ⟨⟨_, same, rejected⟩, _⟩ := step_edit_refused keeps refused
  cases same
  have failed := Model.checkArgument_of_apply brings rejected known
  refine ⟨fun model => ?_, ?_, ?_⟩
  · obtain ⟨alike, fails, code⟩ := Model.checkArgument_error failed model.vars.nextId
    exact ⟨alike, Model.apply_of_checkArgument fails, code⟩
  · constructor
    · rintro ⟨outcome, _⟩
      cases edit with
      | addVariable bounds category =>
        cases live : direct.link.live with
        | none =>
          rw [addVariable_of_unattached keepsNone live] at outcome
          cases outcome
        | some target =>
          have handed : HandsOver direct target ⟨bounds, category⟩
              (step solver.recorded direct (.edit (.addVariable bounds category))).outcome _ :=
            handsOver_addVariable keepsNone live bounds category
          obtain ⟨world, reply, answered, _⟩ := handed
          rw [answered] at outcome
          cases reply <;> cases outcome
      | _ => rfl
    · intro other
      refine step_of_forward keepsNone
        (fun outcome after => outcome = .error (.model cause) ∧ after = direct) ?_
      unfold Ends
      rw [forward_of_checkArgument failed other]
      exact ⟨rfl, rfl⟩
  · rintro bounds category target rfl live
    exact handsOver_addVariable keepsNone live bounds category

/-! ## Faulty changes -/

/-- Bounds that cross, an infinite coefficient, and two components for a cone of three. -/
def faultyEdits : List (Model.Edit Float) :=
  [.addVariable ⟨some 2, some 1, none⟩ .continuous,
    .setObjective .minimize ⟨0, [(⟨0⟩, 1 / 0)], []⟩,
    .addConstraint ⟨.vector [.const 1, .const 0], .cone .secondOrder 3⟩]

/-- Whether a change was refused by a model, and not because an entity is not live. -/
def isFault : Except Error Answer → Bool
  | .error (.model cause) => !cause.isUnknown
  | _ => false

theorem exists_of_isFault {outcome : Except Error Answer} (fault : isFault outcome = true) :
    ∃ cause, outcome = .error (.model cause) ∧ cause.isUnknown = false := by
  unfold isFault at fault
  split at fault
  · rename_i cause
    exact ⟨cause, rfl, Bool.not_eq_true' _ ▸ fault⟩
  · cases fault

theorem refused_faultyEdits :
    (keepingSession.isCached = true ∧ forwardingSession.isCached = false) ∧
      ∀ edit ∈ faultyEdits, edit.bringsArgument = true ∧ ∃ cause,
        (step Scripted.solver keepingSession (.edit edit)).outcome = .error (.model cause) ∧
        cause.isUnknown = false ∧
        ((step Scripted.solver.recorded forwardingSession (.edit edit)).outcome =
            .error (.model cause) ∧
          (step Scripted.solver.recorded forwardingSession (.edit edit)).after =
            forwardingSession ↔ edit.addsVariable = false) := by
  have keeps : keepingSession.isCached = true := by decide
  have keepsNone : forwardingSession.isCached = false := by decide +kernel
  have brings : ∀ edit ∈ faultyEdits, edit.bringsArgument = true := List.all_eq_true.mp rfl
  have faults : ∀ edit ∈ faultyEdits,
      isFault (step Scripted.solver keepingSession (.edit edit)).outcome = true := by
    decide +kernel
  refine ⟨⟨keeps, keepsNone⟩, fun edit member => ⟨brings edit member, ?_⟩⟩
  obtain ⟨cause, refused, known⟩ := exists_of_isFault (faults edit member)
  exact ⟨cause, refused, known,
    (refused_without_model keeps keepsNone (brings edit member) refused known Scripted.solver).2.1⟩

/-- A solver that takes everything is given a variable whose lower bound is above the upper
one. -/
theorem not_refused_crossedBounds :
    ¬ ∀ (edit : Model.Edit Float) (cause : ModelError Float), edit.bringsArgument = true →
      (step Scripted.solver keepingSession (.edit edit)).outcome = .error (.model cause) →
      cause.isUnknown = false →
      (step Scripted.solver.recorded forwardingSession (.edit edit)).outcome =
          .error (.model cause) ∧
        (step Scripted.solver.recorded forwardingSession (.edit edit)).after =
          forwardingSession := by
  intro always
  have fault : isFault (step Scripted.solver keepingSession
      (.edit (.addVariable ⟨some 2, some 1, none⟩ .continuous))).outcome = true := by
    decide +kernel
  have accepted : (step Scripted.solver.recorded forwardingSession
      (.edit (.addVariable ⟨some 2, some 1, none⟩ .continuous))).outcome.isOk = true := by
    decide +kernel
  obtain ⟨cause, refused, known⟩ := exists_of_isFault fault
  obtain ⟨alike, _⟩ := always _ cause rfl refused known
  rw [alike] at accepted
  cases accepted

end Session

end ConicModel
