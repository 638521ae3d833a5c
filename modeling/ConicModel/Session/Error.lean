import ConicModel.Model.Reading
import ConicModel.Result.Decode
import ConicModel.Solver.Attribute

/-!
Contract: the causes for which a session refuses an operation.

Owns:
- the causes that arise in the session itself;
- their union with the causes of models, texts, copies and solvers;
- the kind, the code and the message of each.

Does not own: when a cause arises.

A cause that comes from elsewhere keeps its own code and message.
-/

namespace ConicModel.Session

/-- An operation that does not go together with the mode or the configured
factory. -/
inductive Misconfiguration where
  | factoryRequired
  | unavailable (operation : String)
  | needsModel (operation : String)
  | textNeedsModel
  | factoryFixed
  | factoryConfigured
deriving DecidableEq

def Misconfiguration.description : Misconfiguration → String
  | factoryRequired => "Direct mode requires a backend factory at construction"
  | unavailable operation => s!"{operation} is unavailable in Direct mode"
  | needsModel operation =>
    s!"{operation} needs a model cache and is unavailable in Direct mode"
  | textNeedsModel => "from_text needs a model cache and is unavailable in Direct mode"
  | factoryFixed =>
    "optimize_with is unavailable in Direct mode; the backend is fixed at construction"
  | factoryConfigured =>
    "a backend factory is already configured; use set_backend to replace it"

inductive Absence where
  | factory
  | solverToSync
  | solver
  | attachedSolver
  | solve
deriving DecidableEq

def Absence.description : Absence → String
  | factory => "no backend factory is configured"
  | solverToSync => "sync requires an attached backend"
  | solver => "no backend is attached"
  | attachedSolver => "no backend is attached; call attach first"
  | solve => "no solve has run since the last attach"

/-- Something that describes an earlier model. -/
inductive Staleness where
  | copyToRefresh
  | copy
  | results
  | mapLost
  | unmapped (entity : EntityRef)
deriving DecidableEq

def Staleness.description : Staleness → String
  | copyToRefresh => "the model changed since the last sync; call sync first"
  | copy => "the model changed since the last sync"
  | results => "the model changed since the last optimize; results are out of date"
  | mapLost => "the backend lost its index map"
  | unmapped entity => s!"{entity.text} has no backend index"

inductive Unavailable where
  | primal
  | solveAttribute (wanted : Attribute)
  | variableValue
  | dualOfVariable
  | duals
  | dual (id : ConstraintId)
deriving DecidableEq

def Unavailable.description : Unavailable → String
  | primal => "no primal solution is available"
  | solveAttribute wanted => s!"{wanted.text} is not available"
  | variableValue => "expression references a variable without a value"
  | dualOfVariable => "duals are only defined for constraints"
  | duals => "no dual solution is available"
  | dual id => s!"no dual value for {id.text}"

inductive Error where
  | configuration (cause : Misconfiguration)
  | notAttached (missing : Absence)
  | stale (cause : Staleness)
  | precondition (missing : Unavailable)
  | decode (mismatch : LengthMismatch)
  | model (cause : ModelError Float)
  | parse (cause : ParseError)
  | copy (cause : CopyError)
  | solver (cause : SolverError)

inductive ErrorKind where
  | configuration
  | conflict
  | notAttached
  | staleMapping
  | copy
  | precondition
  | model
  | backend
  | decode
deriving DecidableEq

def ErrorKind.word : ErrorKind → String
  | configuration => "configuration"
  | conflict => "conflict"
  | notAttached => "not_attached"
  | staleMapping => "stale_mapping"
  | copy => "copy"
  | precondition => "precondition"
  | model => "model"
  | backend => "backend"
  | decode => "decode"

namespace Error

def kind : Error → ErrorKind
  | configuration _ => .configuration
  | notAttached _ => .notAttached
  | stale _ => .staleMapping
  | precondition _ => .precondition
  | decode _ => .decode
  | model cause => if cause.isConflict then .conflict else .model
  | parse _ => .model
  | copy _ => .copy
  | solver _ => .backend

def code : Error → String
  | configuration _ => "SYNC_CONFIGURATION"
  | notAttached _ => "SYNC_NOT_ATTACHED"
  | stale _ => "SYNC_STALE_MAPPING"
  | precondition _ => "RESULT_PRECONDITION"
  | decode _ => "RESULT_DECODE"
  | model cause => cause.code
  | parse cause => cause.code
  | copy cause => cause.code
  | solver cause => cause.code

def message (error : Error) : String :=
  match error with
  | configuration cause => s!"[{error.code}] {cause.description}"
  | notAttached missing => s!"[{error.code}] {missing.description}"
  | stale cause => s!"[{error.code}] {cause.description}"
  | precondition missing => s!"[{error.code}] {missing.description}"
  | decode mismatch => s!"[{error.code}] {mismatch.description}"
  | model cause => cause.message
  | parse cause => cause.message
  | copy cause => cause.message
  | solver cause => cause.message

end Error

end ConicModel.Session
