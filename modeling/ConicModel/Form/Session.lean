import ConicModel.Form.Basic
import ConicModel.Session.Record

/-!
Contract: the JSON forms of what a session and a solver report.

Owns:
- the forms of statuses, modes, states and error kinds;
- the forms of result values and of the facts of a solve.

Does not own: the forms of the parts of a model.

The form of a matrix is read as it is: its dimensions and its entries need not
agree.
-/

namespace ConicModel

open JsonForm

namespace TerminationStatus

def all : List TerminationStatus :=
  [optimizeNotCalled, optimal, locallySolved, almostOptimal, infeasible, dualInfeasible,
    infeasibleOrUnbounded, timeLimit, iterationLimit, nodeLimit, solutionLimit, objectiveLimit,
    interrupted, numericalError, invalidModel, otherError]

def tag : TerminationStatus → String
  | optimizeNotCalled => "OptimizeNotCalled"
  | optimal => "Optimal"
  | locallySolved => "LocallySolved"
  | almostOptimal => "AlmostOptimal"
  | infeasible => "Infeasible"
  | dualInfeasible => "DualInfeasible"
  | infeasibleOrUnbounded => "InfeasibleOrUnbounded"
  | timeLimit => "TimeLimit"
  | iterationLimit => "IterationLimit"
  | nodeLimit => "NodeLimit"
  | solutionLimit => "SolutionLimit"
  | objectiveLimit => "ObjectiveLimit"
  | interrupted => "Interrupted"
  | numericalError => "NumericalError"
  | invalidModel => "InvalidModel"
  | otherError => "OtherError"

end TerminationStatus

instance : JsonForm TerminationStatus :=
  ofNames TerminationStatus.all TerminationStatus.tag

namespace ResultStatus

def all : List ResultStatus :=
  [noSolution, feasiblePoint, nearlyFeasiblePoint, infeasiblePoint, infeasibilityCertificate,
    unknownResultStatus]

def tag : ResultStatus → String
  | noSolution => "NoSolution"
  | feasiblePoint => "FeasiblePoint"
  | nearlyFeasiblePoint => "NearlyFeasiblePoint"
  | infeasiblePoint => "InfeasiblePoint"
  | infeasibilityCertificate => "InfeasibilityCertificate"
  | unknownResultStatus => "UnknownResultStatus"

end ResultStatus

instance : JsonForm ResultStatus :=
  ofNames ResultStatus.all ResultStatus.tag

def Mode.tag : Mode → String
  | .automatic => "Automatic"
  | .manual => "Manual"
  | .direct => "Direct"

instance : JsonForm Mode :=
  ofNames [.automatic, .manual, .direct] Mode.tag

def SyncState.tag : SyncState → String
  | .empty => "Empty"
  | .outOfSync => "OutOfSync"
  | .synced => "Synced"

instance : JsonForm SyncState :=
  ofNames [.empty, .outOfSync, .synced] SyncState.tag

namespace Session.ErrorKind

def all : List ErrorKind :=
  [configuration, conflict, notAttached, staleMapping, copy, precondition, model, backend, decode]

def tag : ErrorKind → String
  | configuration => "Configuration"
  | conflict => "Conflict"
  | notAttached => "NotAttached"
  | staleMapping => "StaleMapping"
  | copy => "Copy"
  | precondition => "Precondition"
  | model => "Model"
  | backend => "Backend"
  | decode => "Decode"

end Session.ErrorKind

instance : JsonForm Session.ErrorKind :=
  ofNames Session.ErrorKind.all Session.ErrorKind.tag

instance : JsonForm (DenseMatrix Float) where
  write := fun matrix =>
    .record [("rows", write matrix.rows), ("cols", write matrix.cols), ("data", write matrix.data)]
  read := fun json =>
    match columns ["rows", "cols", "data"] json with
    | some [rows, cols, data] => do
      let rows ← readColumn rows
      let cols ← readColumn cols
      let data ← readColumn data
      return ⟨rows, cols, data⟩
    | _ => none

instance : JsonForm (ResultValue Float) where
  write
    | .scalar value => tagged "Scalar" value
    | .vector values => tagged "Vector" values
    | .matrix entries => tagged "Matrix" entries
  read := fun json =>
    match splitTag json with
    | some ("Scalar", some content) => (read content).map .scalar
    | some ("Vector", some content) => (read content).map .vector
    | some ("Matrix", some content) => (read content).map .matrix
    | _ => none

def ResultSummary.fieldNames : List String :=
  ["termination", "raw_status", "result_count", "primal_status", "dual_status", "objective_value",
    "dual_objective_value", "objective_bound", "solve_time"]

instance : JsonForm ResultSummary where
  write := fun facts =>
    .record (ResultSummary.fieldNames.zip
      [write facts.termination, write facts.rawStatus, write facts.resultCount,
        write facts.primalStatus, write facts.dualStatus, write facts.objectiveValue,
        write facts.dualObjectiveValue, write facts.objectiveBound, write facts.solveTime])
  read := fun json =>
    match columns ResultSummary.fieldNames json with
    | some [termination, rawStatus, resultCount, primalStatus, dualStatus, objectiveValue,
        dualObjectiveValue, objectiveBound, solveTime] => do
      let termination ← readColumn termination
      let rawStatus ← readColumn rawStatus
      let resultCount ← readColumn resultCount
      let primalStatus ← readColumn primalStatus
      let dualStatus ← readColumn dualStatus
      let objectiveValue ← readColumn objectiveValue
      let dualObjectiveValue ← readColumn dualObjectiveValue
      let objectiveBound ← readColumn objectiveBound
      let solveTime ← readColumn solveTime
      return ⟨termination, rawStatus, resultCount, primalStatus, dualStatus, objectiveValue,
        dualObjectiveValue, objectiveBound, solveTime⟩
    | _ => none

end ConicModel
