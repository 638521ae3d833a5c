import ConicModel.Proofs.Session.Duals
import ConicModel.Proofs.Session.Facts
import ConicModel.Proofs.Session.Values

/-!
Contract: in a session with a current record, every read of results is a function of the record
and the model.

Owns:
- `ResultRecord.answerTo`, what a read comes to;
- the fact that a session with a current record answers every read so.

Does not own: where the record comes from.

Neither the solver nor the link takes part.  So sessions with the same model and the same record
cannot be told apart by reading, whatever solvers they have.
-/

namespace ConicModel

open Session (Error Answer ResultRead required recordedComponents recordedValue isReadable)

namespace ResultRecord

def checkPrimal (record : ResultRecord) : Except Error Unit :=
  if record.summary.primalStatus.hasValues then .ok () else .error (.precondition .primal)

def valueOf (record : ResultRecord) (id : VariableId) : Except Error Float :=
  match record.primal? id with
  | some value => .ok value
  | none => .error (.model (.unknownVariable id))

def dualOf (record : ResultRecord) (model : Model Float) (id : ConstraintId) :
    Except Error (ResultValue Float) :=
  if record.summary.dualStatus.hasValues = true then
    if model.constraints.contains id = true then
      match record.dual? id with
      | some (.ok value) => .ok value
      | some (.error mismatch) => .error (.decode mismatch)
      | none => .error (.precondition (.dual id))
    else .error (.model (.unknownConstraint id))
  else .error (.precondition .duals)

def answerTo (record : ResultRecord) (model : Model Float) : ResultRead → Except Error Answer
  | .summary => .ok (.summary record.summary)
  | .terminationStatus => .ok (.termination record.summary.termination)
  | .primalStatus => .ok (.status record.summary.primalStatus)
  | .dualStatus => .ok (.status record.summary.dualStatus)
  | .rawStatus => .ok (.text record.summary.rawStatus)
  | .resultCount => .ok (.count record.summary.resultCount)
  | .hasValues => .ok (.flag record.summary.primalStatus.hasValues)
  | .hasDuals => .ok (.flag record.summary.dualStatus.hasValues)
  | .objectiveValue =>
    (do record.checkPrimal
        required (.solveAttribute .objectiveValue) record.summary.objectiveValue).map .number
  | .dualObjectiveValue =>
    (required (.solveAttribute .dualObjectiveValue) record.summary.dualObjectiveValue).map .number
  | .objectiveBound =>
    (required (.solveAttribute .objectiveBound) record.summary.objectiveBound).map .number
  | .solveTime =>
    (required (.solveAttribute .solveTimeSec) record.summary.solveTime).map .number
  | .value id => (do record.checkPrimal; record.valueOf id).map .number
  | .valueOfEntity (.var id) =>
    let shaped : Except Error (ResultValue Float) :=
      (do record.checkPrimal; record.valueOf id).map .scalar
    shaped.map .value
  | .valueOfEntity (.con id) =>
    (do record.checkPrimal; recordedComponents record model id).map .value
  | .valueOfExpr expr => (do record.checkPrimal; recordedValue record expr).map .number
  | .dual (.var _) => .error (.precondition .dualOfVariable)
  | .dual (.con id) => (record.dualOf model id).map .value
  | .hasDual (.var _) => .ok (.flag false)
  | .hasDual (.con id) =>
    .ok (.flag (record.summary.dualStatus.hasValues && isReadable (record.dual? id)))

end ResultRecord

namespace Session

variable {World Factory Instance : Type} {solver : Solver World Factory Instance}
  {record : ResultRecord} {model : Model Float}

theorem comes_recallPrimal :
    Comes (Recalls record model) (requirePrimal solver) record.checkPrimal := by
  unfold ResultRecord.checkPrimal
  cases values : record.summary.primalStatus.hasValues with
  | true => exact comes_of_ok fun _ held => held.current.requirePrimal_eq values
  | false => exact comes_of_error fun _ held => held.current.requirePrimal_of_noValues values

theorem comes_otherwise {α : Type} {ask : Instance → Link.Action World Factory Instance α}
    {otherwise : Action World Factory Instance α} {outcome : Except Error α}
    (comes : Comes (Recalls record model) otherwise outcome) :
    Comes (Recalls record model) (fromSource ask otherwise) outcome :=
  comes.congr fun _ held => fromSource_of_cached held.current.cached

theorem comes_requireRecord :
    Comes (Recalls record model) (requireRecord : Action World Factory Instance ResultRecord)
      (.ok record) :=
  comes_of_ok fun _ held => held.current.requireRecord_eq

theorem comes_ofExcept {α : Type} {holds : Session World Factory Instance → Prop}
    (outcome : Except Error α) :
    Comes holds (MonadExcept.ofExcept outcome : Action World Factory Instance α) outcome := by
  cases outcome with
  | ok value => exact comes_pure value
  | error cause => exact comes_throw cause

/-- Where there is a model, an action may look at the record first, and go on without an
instance. -/
theorem comes_ifCached {α : Type} {recalled asked : Action World Factory Instance α}
    {outcome : Except Error α} (comes : Comes (Recalls record model) recalled outcome) :
    Comes (Recalls record model) (do if (← get).isCached then recalled else asked) outcome := by
  refine comes_ofState fun session held => ?_
  rwa [if_pos held.current.cached]

theorem comes_recallValue (id : VariableId) :
    Comes (Recalls record model) (value solver id)
      (do record.checkPrimal; record.valueOf id) := by
  refine comes_bind comes_recallPrimal fun _ _ => comes_otherwise ?_
  refine comes_bind_of_ok comes_requireRecord ?_
  unfold ResultRecord.valueOf
  cases record.primal? id with
  | some value => exact comes_pure value
  | none => exact comes_throw _

theorem comes_recallScalar (id : VariableId) :
    Comes (Recalls record model) (resultValue solver (.var id))
      ((do record.checkPrimal; record.valueOf id).map .scalar) := by
  have mapped : ∀ outcome : Except Error Float,
      outcome.map ResultValue.scalar = outcome >>= fun value => .ok (.scalar value) := by
    intro outcome
    cases outcome <;> rfl
  rw [mapped]
  exact comes_bind (comes_recallValue id) fun value _ => comes_pure (ResultValue.scalar value)

theorem comes_recallComponents (id : ConstraintId) :
    Comes (Recalls record model) (constraintValue solver id)
      (do record.checkPrimal; recordedComponents record model id) := by
  refine comes_bind comes_recallPrimal fun _ _ => comes_otherwise ?_
  refine comes_bind_of_ok comes_requireRecord (comes_ofState fun session held => ?_)
  rw [held.model]
  exact comes_ofExcept _

theorem comes_recallExpr (expr : Expr Float) :
    Comes (Recalls record model) (resultValueOf solver expr)
      (do record.checkPrimal; recordedValue record expr) := by
  refine comes_bind comes_recallPrimal fun _ _ => comes_ifCached ?_
  exact comes_bind_of_ok comes_requireRecord (comes_ofExcept _)

theorem comes_hasDuals :
    Comes (Recalls record model) (hasResultDuals solver)
      (.ok record.summary.dualStatus.hasValues) :=
  comes_of_ok fun _ held => held.current.hasResultDuals_eq

theorem comes_recallDual (id : ConstraintId) :
    Comes (Recalls record model) (resultDual solver (.con id)) (record.dualOf model id) := by
  refine Comes.congr ?_ fun _ held => held.current.resultDual_eq id
  unfold ResultRecord.dualOf
  split
  · split
    · rename_i live
      have recalled : Comes (Recalls record model) (recallDual id : Action World Factory Instance _)
          (.ok (record.dual? id)) :=
        comes_of_ok fun _ held => held.current.recallDual_of_live (held.model ▸ live)
      refine comes_bind_of_ok recalled ?_
      cases record.dual? id with
      | none => exact comes_throw _
      | some reported =>
        cases reported with
        | ok value => exact comes_pure value
        | error mismatch => exact comes_throw _
    · rename_i absent
      have absent : model.constraints.contains id = false := Bool.eq_false_iff.mpr absent
      exact comes_bind_of_error
        (comes_of_error fun _ held => recallDual_of_absent (held.model ▸ absent))
  · exact comes_throw _

theorem comes_recallHasDual (id : ConstraintId) :
    Comes (Recalls record model) (hasResultDual solver (.con id))
      (.ok (record.summary.dualStatus.hasValues && isReadable (record.dual? id))) := by
  cases values : record.summary.dualStatus.hasValues with
  | true => exact comes_of_ok fun _ held => held.current.hasResultDual_eq values id
  | false => exact comes_hasResultDual_false (values ▸ comes_hasDuals) (.con id)

theorem comes_recalled (result : ResultRead) :
    Comes (Recalls record model) (readResult solver result) (record.answerTo model result) := by
  cases result with
  | summary => exact comes_map (comes_recallFact id)
  | terminationStatus => exact comes_map (comes_recallFact ResultSummary.termination)
  | primalStatus => exact comes_map (comes_recallFact ResultSummary.primalStatus)
  | dualStatus => exact comes_map (comes_recallFact ResultSummary.dualStatus)
  | rawStatus => exact comes_map comes_recallRawStatus
  | resultCount => exact comes_map (comes_resultCount (comes_recallFact id))
  | hasValues =>
    exact comes_map (comes_of_ok fun _ held => saysValues_of_ok held.current.primalStatus_eq)
  | hasDuals => exact comes_map comes_hasDuals
  | objectiveValue =>
    exact comes_map (comes_bind comes_recallPrimal fun _ _ => comes_recallFloat _ _)
  | dualObjectiveValue => exact comes_map (comes_recallFloat _ ResultSummary.dualObjectiveValue)
  | objectiveBound => exact comes_map (comes_recallFloat _ ResultSummary.objectiveBound)
  | solveTime => exact comes_map (comes_recallFloat _ ResultSummary.solveTime)
  | value id => exact comes_map (comes_recallValue id)
  | valueOfEntity entity =>
    cases entity with
    | var id => exact comes_map (comes_recallScalar id)
    | con id => exact comes_map (comes_recallComponents id)
  | valueOfExpr expr => exact comes_map (comes_recallExpr expr)
  | dual entity =>
    cases entity with
    | var id =>
      exact comes_map (comes_of_error fun _ held => held.current.resultDual_of_variable id)
    | con id => exact comes_map (comes_recallDual id)
  | hasDual entity =>
    cases entity with
    | var id => exact comes_map (comes_pure false)
    | con id => exact comes_map (comes_recallHasDual id)

end Session

end ConicModel
