/-!
Contract: what a solver says about the outcome of a solve.

Owns:
- termination statuses and result statuses with their words and classes.

Does not own: how a status is read from a solver.
-/

namespace ConicModel

inductive TerminationStatus where
  | optimizeNotCalled
  | optimal
  | locallySolved
  | almostOptimal
  | infeasible
  | dualInfeasible
  | infeasibleOrUnbounded
  | timeLimit
  | iterationLimit
  | nodeLimit
  | solutionLimit
  | objectiveLimit
  | interrupted
  | numericalError
  | invalidModel
  | otherError
deriving DecidableEq

namespace TerminationStatus

def word : TerminationStatus → String
  | optimizeNotCalled => "optimize_not_called"
  | optimal => "optimal"
  | locallySolved => "locally_solved"
  | almostOptimal => "almost_optimal"
  | infeasible => "infeasible"
  | dualInfeasible => "dual_infeasible"
  | infeasibleOrUnbounded => "infeasible_or_unbounded"
  | timeLimit => "time_limit"
  | iterationLimit => "iteration_limit"
  | nodeLimit => "node_limit"
  | solutionLimit => "solution_limit"
  | objectiveLimit => "objective_limit"
  | interrupted => "interrupted"
  | numericalError => "numerical_error"
  | invalidModel => "invalid_model"
  | otherError => "other_error"

/-- Whether an optimum was found, locally or within relaxed tolerances. -/
def isSuccess : TerminationStatus → Bool
  | optimal | locallySolved | almostOptimal => true
  | _ => false

/-- Whether the solver stopped at a limit on time, work or objective. -/
def isLimit : TerminationStatus → Bool
  | timeLimit | iterationLimit | nodeLimit | solutionLimit | objectiveLimit => true
  | _ => false

/-- Whether the problem or its dual has no feasible point. -/
def isInfeasible : TerminationStatus → Bool
  | infeasible | dualInfeasible | infeasibleOrUnbounded => true
  | _ => false

end TerminationStatus

inductive ResultStatus where
  | noSolution
  | feasiblePoint
  | nearlyFeasiblePoint
  | infeasiblePoint
  | infeasibilityCertificate
  | unknownResultStatus
deriving DecidableEq

namespace ResultStatus

def word : ResultStatus → String
  | noSolution => "no_solution"
  | feasiblePoint => "feasible_point"
  | nearlyFeasiblePoint => "nearly_feasible_point"
  | infeasiblePoint => "infeasible_point"
  | infeasibilityCertificate => "infeasibility_certificate"
  | unknownResultStatus => "unknown"

def hasValues : ResultStatus → Bool
  | noSolution => false
  | _ => true

/-- Whether the values form a feasible point, perhaps within relaxed
tolerances. -/
def isFeasible : ResultStatus → Bool
  | feasiblePoint | nearlyFeasiblePoint => true
  | _ => false

end ResultStatus

end ConicModel
