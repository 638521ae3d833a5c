import ConicModel.Session.Basic

/-!
Contract: reading the results of the last solve.

Owns:
- the facts of the solve and the values of variables, constraints and
  expressions;
- which read is refused, and for which cause.

Does not own: solving.

Where there is a model, results come from the record alone, and only while it
describes the model as it is now.  Where there is none, each read asks the
live instance anew.
-/

namespace ConicModel.Session

variable {World Factory Instance : Type}

/-! ## The record -/

/-- The record of the last solve, if it describes the model as it is now. -/
def currentRecord? (session : Session World Factory Instance) : Option ResultRecord :=
  session.record.filter fun record => record.isCurrent session.model

def readableRecord (session : Session World Factory Instance) : Except Error ResultRecord :=
  match session.record with
  | none => .error (.notAttached .solve)
  | some record =>
    if record.isCurrent session.model then .ok record else .error (.stale .results)

/-- The instance that is asked for results: the live one, where there is no
model. -/
def resultSource? (session : Session World Factory Instance) : Option Instance :=
  if session.isCached then none else session.link.live

def requireRecord : Action World Factory Instance ResultRecord := fun session =>
  match session.readableRecord with
  | .ok record => .ok record session
  | .error cause => .error cause session

/-- Asks the instance where there is no model, and otherwise the session. -/
def fromSource {α : Type} (ask : Instance → Link.Action World Factory Instance α)
    (otherwise : Action World Factory Instance α) : Action World Factory Instance α := do
  match (← get).resultSource? with
  | some target => onLink fun _ => ask target
  | none => otherwise

/-- A fact of the last solve; without a current record, that of a model that
was not solved. -/
def recallFact {α : Type} (fact : ResultSummary → α) : Action World Factory Instance α := do
  match (← get).currentRecord? with
  | some record => return fact record.summary
  | none => return fact .notCalled

def require {α : Type} (missing : Unavailable) : Option α → Action World Factory Instance α
  | some value => return value
  | none => throw (.precondition missing)

variable (solver : Solver World Factory Instance)

/-! ## Facts of the solve -/

def resultSummary : Action World Factory Instance ResultSummary :=
  fromSource (Link.summary solver) (recallFact id)

def terminationStatus : Action World Factory Instance TerminationStatus :=
  fromSource (Link.termination solver) (recallFact ResultSummary.termination)

def primalStatus : Action World Factory Instance ResultStatus :=
  fromSource (Link.resultStatus solver · .primalStatus) (recallFact ResultSummary.primalStatus)

def dualStatus : Action World Factory Instance ResultStatus :=
  fromSource (Link.resultStatus solver · .dualStatus) (recallFact ResultSummary.dualStatus)

def rawStatus : Action World Factory Instance String :=
  fromSource (Link.rawStatus solver) do return (← requireRecord).summary.rawStatus

def resultCount : Action World Factory Instance Nat := do
  return (← resultSummary solver).resultCount

/-- Whether a status that may be refused says that there are values. -/
def saysValues (status : Action World Factory Instance ResultStatus) :
    Action World Factory Instance Bool :=
  tryCatch (do return (← status).hasValues) fun _ => return false

def hasResultValues : Action World Factory Instance Bool :=
  saysValues (primalStatus solver)

def hasResultDuals : Action World Factory Instance Bool :=
  saysValues (dualStatus solver)

def requirePrimal : Action World Factory Instance Unit := do
  if (← get).isCached then discard requireRecord
  if !(← hasResultValues solver) then throw (.precondition .primal)

def solveFloat (wanted : Attribute) (fact : ResultSummary → Option Float) :
    Action World Factory Instance Float := do
  let value ← fromSource (Link.optionalFloat solver · wanted) do
    return fact (← requireRecord).summary
  require (.solveAttribute wanted) value

def objectiveValue : Action World Factory Instance Float := do
  requirePrimal solver
  solveFloat solver .objectiveValue ResultSummary.objectiveValue

def dualObjectiveValue : Action World Factory Instance Float :=
  solveFloat solver .dualObjectiveValue ResultSummary.dualObjectiveValue

def objectiveBound : Action World Factory Instance Float :=
  solveFloat solver .objectiveBound ResultSummary.objectiveBound

def solveTime : Action World Factory Instance Float :=
  solveFloat solver .solveTimeSec ResultSummary.solveTime

/-! ## Primal values -/

def value (id : VariableId) : Action World Factory Instance Float := do
  requirePrimal solver
  fromSource (Link.variablePrimal solver · ⟨id.number⟩) do
    match (← requireRecord).primal? id with
    | some value => return value
    | none => throw (.model (.unknownVariable id))

def recordedValue (record : ResultRecord) (expr : Expr Float) : Except Error Float :=
  match expr.vars.find? fun id => (record.primal? id).isNone with
  | some missing => .error (.model (.unknownVariable missing))
  | none =>
    match expr.evaluate record.primal? with
    | some value => .ok value
    | none => .error (.precondition .variableValue)

/-- The value of the function of a constraint at recorded primal values. -/
def recordedComponents (record : ResultRecord) (model : Model Float) (id : ConstraintId) :
    Except Error (ResultValue Float) :=
  match model.getConstraint id with
  | .error cause => .error (.model cause)
  | .ok constraint =>
    match constraint.function.components.mapM (recordedValue record) with
    | .error cause => .error cause
    | .ok values =>
      match decode constraint.set values with
      | .ok value => .ok value
      | .error mismatch => .error (.decode mismatch)

def constraintValue (id : ConstraintId) : Action World Factory Instance (ResultValue Float) := do
  requirePrimal solver
  let ask := fun target => do
    let set ← Link.constraintSet solver target ⟨id.number⟩
    Link.constraintPrimal solver target ⟨id.number⟩ set
  fromSource ask do
    MonadExcept.ofExcept (recordedComponents (← requireRecord) (← get).model id)

def resultValue : EntityRef → Action World Factory Instance (ResultValue Float)
  | .var id => do return .scalar (← value solver id)
  | .con id => constraintValue solver id

/-- The value of an expression at the primal values.  Where there is no model,
each mention of a variable is read anew. -/
def resultValueOf (expr : Expr Float) : Action World Factory Instance Float := do
  requirePrimal solver
  if (← get).isCached then MonadExcept.ofExcept (recordedValue (← requireRecord) expr)
  else expr.evaluateWith (value solver)

/-! ## Dual values -/

def askDual (id : ConstraintId) (target : Instance) :
    Link.Action World Factory Instance (Option (Except LengthMismatch (ResultValue Float))) := do
  let set ← Link.constraintSet solver target ⟨id.number⟩
  Link.constraintDual? solver target ⟨id.number⟩ set

/-- Whether a dual value of the constraint was read and has the right length. -/
def isReadable : Option (Except LengthMismatch (ResultValue Float)) → Bool
  | some (.ok _) => true
  | _ => false

/-- Whether the dual value of an entity can be read.  Any failure means no. -/
def hasResultDual : EntityRef → Action World Factory Instance Bool
  | .var _ => return false
  | .con id => do
    if !(← hasResultDuals solver) then return false
    match (← get).currentRecord? with
    | some record => return isReadable (record.dual? id)
    | none =>
      match (← get).resultSource? with
      | none => return false
      | some target =>
        tryCatch (do return isReadable (← onLink fun _ => askDual solver id target)) fun _ =>
          return false

def requireDual (id : ConstraintId) :
    Option (Except LengthMismatch (ResultValue Float)) →
      Action World Factory Instance (ResultValue Float)
  | some (.ok value) => return value
  | some (.error mismatch) => throw (.decode mismatch)
  | none => throw (.precondition (.dual id))

def recallDual (id : ConstraintId) :
    Action World Factory Instance (Option (Except LengthMismatch (ResultValue Float))) := do
  if !(← get).model.constraints.contains id then throw (.model (.unknownConstraint id))
  return (← requireRecord).dual? id

/-- The dual value of an entity, which only constraints have. -/
def resultDual (entity : EntityRef) : Action World Factory Instance (ResultValue Float) := do
  if (← get).isCached then discard requireRecord
  match entity with
  | .var _ => throw (.precondition .dualOfVariable)
  | .con id =>
    if !(← hasResultDuals solver) then throw (.precondition .duals)
    let found ← fromSource (askDual solver id) (recallDual id)
    requireDual id found

end ConicModel.Session
