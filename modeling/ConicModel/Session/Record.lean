import ConicModel.Session.Query

/-!
Contract: what one solve produced.

Owns:
- the facts of a solve, and those of a model that was not solved;
- the record of a solve, which keeps values under the ids of entities;
- reading both from an instance, in a fixed order.

Does not own: whether a record still describes the model.

Values are read only where the status says that there are any.  A dual of the
wrong length is kept as a mismatch and does not spoil the record.
-/

namespace ConicModel

structure ResultSummary where
  termination : TerminationStatus := .optimizeNotCalled
  rawStatus : String := ""
  resultCount : Nat := 0
  primalStatus : ResultStatus := .noSolution
  dualStatus : ResultStatus := .noSolution
  objectiveValue : Option Float := none
  dualObjectiveValue : Option Float := none
  objectiveBound : Option Float := none
  solveTime : Option Float := none
deriving BEq

def ResultSummary.notCalled : ResultSummary := {}

/-- The record of a solve: the generation of the model, the facts, the primal
values of variables, and the dual values of constraints or their mismatches. -/
structure ResultRecord where
  generation : Nat
  summary : ResultSummary
  primals : List (VariableId × Float)
  duals : List (ConstraintId × Except LengthMismatch (ResultValue Float))

namespace ResultRecord

/-- Whether the model is the one that was solved, as far as generations tell. -/
def isCurrent {K : Type} (record : ResultRecord) (model : Model K) : Bool :=
  record.generation == model.generation

def primal? (record : ResultRecord) (id : VariableId) : Option Float :=
  (record.primals.find? fun entry => entry.1 == id).map Prod.snd

def dual? (record : ResultRecord) (id : ConstraintId) :
    Option (Except LengthMismatch (ResultValue Float)) :=
  (record.duals.find? fun entry => entry.1 == id).map Prod.snd

end ResultRecord

namespace Link

open Session (Error)

variable {World Factory Instance : Type} (solver : Solver World Factory Instance)

/-- Reads a number if there is a solution that it belongs to. -/
def floatOf (target : Instance) (status : ResultStatus) (wanted : Attribute) :
    Action World Factory Instance (Option Float) :=
  if status.hasValues then optionalFloat solver target wanted else return none

def summary (target : Instance) : Action World Factory Instance ResultSummary := do
  let termination ← termination solver target
  let primalStatus ← resultStatus solver target .primalStatus
  let dualStatus ← resultStatus solver target .dualStatus
  let resultCount ← read? solver target .resultCount Attribute.asCount
  let objectiveValue ← floatOf solver target primalStatus .objectiveValue
  let dualObjectiveValue ← floatOf solver target dualStatus .dualObjectiveValue
  let rawStatus ← rawStatus solver target
  let objectiveBound ← optionalFloat solver target .objectiveBound
  let solveTime ← optionalFloat solver target .solveTimeSec
  return {
    termination, rawStatus, primalStatus, dualStatus, objectiveValue, dualObjectiveValue,
    objectiveBound, solveTime
    resultCount := resultCount.getD (if primalStatus.hasValues then 1 else 0) }

def primals (target : Instance) (map : IndexMap) :
    List VariableId → Action World Factory Instance (List (VariableId × Float))
  | [] => return []
  | id :: others => do
    match map.vars.index? id with
    | none => throw (.stale (.unmapped (.var id)))
    | some index =>
      let value ← variablePrimal solver target index
      let values ← primals target map others
      return (id, value) :: values

/-- Reads the dual values of constraints.  One that the instance does not have
is left out, and one of the wrong length is reported. -/
def duals (target : Instance) (map : IndexMap) :
    List (Entry .con (Constraint Float)) → Action World Factory Instance
      (List (ConstraintId × Except LengthMismatch (ResultValue Float)))
  | [] => return []
  | entry :: others => do
    match map.constraints.index? entry.id with
    | none => throw (.stale (.unmapped (.con entry.id)))
    | some index =>
      match ← constraintDual? solver target index entry.content.set with
      | none => duals target map others
      | some value =>
        if let .error mismatch := value then
          report (.dualRejected entry.id (Error.message (.decode mismatch)))
        let values ← duals target map others
        return (entry.id, value) :: values

def collect (target : Instance) (model : Model Float) (map : IndexMap) :
    Action World Factory Instance ResultRecord := do
  let summary ← summary solver target
  let primals ←
    if summary.primalStatus.hasValues then primals solver target map model.vars.ids
    else pure []
  let duals ←
    if summary.dualStatus.hasValues then duals solver target map model.constraints.entries
    else pure []
  return ⟨model.generation, summary, primals, duals⟩

end Link

end ConicModel
