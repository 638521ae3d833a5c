import ConicModel.Constraint.Basic
import ConicModel.Model.Variable
import ConicModel.Solver.Status

/-!
Contract: what a solver can be asked for and told.

Owns:
- the indices under which a solver knows entities;
- attributes and the values they carry;
- the causes for which a solver or a copy fails;
- the typed reading of attribute values;
- the settings of a solver, as attribute values in a fixed order.

Does not own: any solver.
-/

namespace ConicModel

/-- The number under which one solver instance knows an entity. -/
structure SolverIndex (kind : EntityKind) where
  number : Nat
deriving DecidableEq

abbrev VariableIndex := SolverIndex .var

abbrev ConstraintIndex := SolverIndex .con

/-- An index as text, such as `backend_variable[3]`. -/
def SolverIndex.text {kind : EntityKind} (index : SolverIndex kind) : String :=
  s!"backend_{kind.word}[{index.number}]"

inductive IndexRef where
  | var (index : VariableIndex)
  | con (index : ConstraintIndex)
deriving DecidableEq

def IndexRef.text : IndexRef → String
  | .var index => index.text
  | .con index => index.text

inductive Attribute where
  | terminationStatus
  | rawStatusString
  | resultCount
  | primalStatus
  | dualStatus
  | objectiveValue
  | dualObjectiveValue
  | objectiveBound
  | solveTimeSec
  | solverName
  | variablePrimal (index : VariableIndex)
  | constraintPrimal (index : ConstraintIndex)
  | constraintDual (index : ConstraintIndex)
  | constraintSet (index : ConstraintIndex)
  | variableBounds (index : VariableIndex)
  | variableCategory (index : VariableIndex)
  | variableName (index : VariableIndex)
  | constraintName (index : ConstraintIndex)
  | timeLimitSec
  | silent
  | threads
  | rawParameter (name : String)
deriving DecidableEq

namespace Attribute

/-- The name of an attribute, without its index.  A raw parameter has the name
it was given. -/
def name : Attribute → String
  | terminationStatus => "TerminationStatus"
  | rawStatusString => "RawStatusString"
  | resultCount => "ResultCount"
  | primalStatus => "PrimalStatus"
  | dualStatus => "DualStatus"
  | objectiveValue => "ObjectiveValue"
  | dualObjectiveValue => "DualObjectiveValue"
  | objectiveBound => "ObjectiveBound"
  | solveTimeSec => "SolveTimeSec"
  | solverName => "SolverName"
  | variablePrimal _ => "VariablePrimal"
  | constraintPrimal _ => "ConstraintPrimal"
  | constraintDual _ => "ConstraintDual"
  | constraintSet _ => "ConstraintSet"
  | variableBounds _ => "VariableBounds"
  | variableCategory _ => "VariableCategory"
  | variableName _ => "VariableName"
  | constraintName _ => "ConstraintName"
  | timeLimitSec => "TimeLimitSec"
  | silent => "Silent"
  | threads => "Threads"
  | rawParameter name => name

/-- What stands in parentheses after the name of an attribute. -/
def subject? : Attribute → Option String
  | variablePrimal index => some index.text
  | variableBounds index => some index.text
  | variableCategory index => some index.text
  | variableName index => some index.text
  | constraintPrimal index => some index.text
  | constraintDual index => some index.text
  | constraintSet index => some index.text
  | constraintName index => some index.text
  | _ => none

def text (wanted : Attribute) : String :=
  match wanted, wanted.subject? with
  | rawParameter name, _ => s!"RawParameter({name})"
  | _, some subject => s!"{wanted.name}({subject})"
  | _, none => wanted.name

end Attribute

inductive AttributeValue where
  | termination (status : TerminationStatus)
  | result (status : ResultStatus)
  | count (count : Nat)
  | float (value : Float)
  | vector (values : List Float)
  | text (text : String)
  | bool (flag : Bool)
  | set (set : ConstraintSet Float)
  | bounds (bounds : Bounds Float)
  | category (category : Category)

def AttributeValue.kind : AttributeValue → String
  | termination _ => "termination status"
  | result _ => "result status"
  | count _ => "count"
  | float _ => "float"
  | vector _ => "vector"
  | text _ => "text"
  | bool _ => "bool"
  | set _ => "set"
  | bounds _ => "bounds"
  | category _ => "category"

inductive SolverError where
  | unsupportedAttribute (wanted : String)
  | unsupportedOperation (operation : String)
  | wrongType (wanted expected : String)
  | invalidVariable (index : VariableIndex)
  | invalidConstraint (index : ConstraintIndex)
  | createFailed (reason : String)
  | internal (reason : String)
deriving DecidableEq

namespace SolverError

def code : SolverError → String
  | unsupportedAttribute _ => "SOLVER_UNSUPPORTED_ATTRIBUTE"
  | unsupportedOperation _ => "SOLVER_UNSUPPORTED_OPERATION"
  | wrongType _ _ => "SOLVER_ATTRIBUTE_TYPE"
  | invalidVariable _ => "SOLVER_INVALID_INDEX"
  | invalidConstraint _ => "SOLVER_INVALID_INDEX"
  | createFailed _ => "SOLVER_CREATE_FAILED"
  | internal _ => "SOLVER_INTERNAL"

/-- Whether the solver does not know how, rather than having failed. -/
def isUnsupported : SolverError → Bool
  | unsupportedAttribute _ => true
  | unsupportedOperation _ => true
  | _ => false

def description : SolverError → String
  | unsupportedAttribute wanted => s!"Attribute {wanted} is not supported"
  | unsupportedOperation operation => s!"Operation {operation} is not supported"
  | wrongType wanted expected => s!"Attribute {wanted} expects a {expected} value"
  | invalidVariable index => s!"{index.text} does not exist in the backend"
  | invalidConstraint index => s!"{index.text} does not exist in the backend"
  | createFailed reason => s!"Backend could not be created: {reason}"
  | internal reason => s!"Solver internal error: {reason}"

def message (error : SolverError) : String :=
  s!"[{error.code}] {error.description}"

end SolverError

namespace Attribute

def unsupported (wanted : Attribute) : SolverError :=
  .unsupportedAttribute wanted.text

def mistyped {α : Type} (wanted : Attribute) (expected : String) : Except SolverError α :=
  .error (.wrongType wanted.text expected)

def asTermination (wanted : Attribute) : AttributeValue → Except SolverError TerminationStatus
  | .termination status => .ok status
  | _ => wanted.mistyped "termination status"

def asResult (wanted : Attribute) : AttributeValue → Except SolverError ResultStatus
  | .result status => .ok status
  | _ => wanted.mistyped "result status"

def asCount (wanted : Attribute) : AttributeValue → Except SolverError Nat
  | .count count => .ok count
  | _ => wanted.mistyped "count"

def asFloat (wanted : Attribute) : AttributeValue → Except SolverError Float
  | .float value => .ok value
  | _ => wanted.mistyped "float"

/-- Expects a vector; a number is a vector of one. -/
def asVector (wanted : Attribute) : AttributeValue → Except SolverError (List Float)
  | .vector values => .ok values
  | .float value => .ok [value]
  | _ => wanted.mistyped "vector"

def asText (wanted : Attribute) : AttributeValue → Except SolverError String
  | .text text => .ok text
  | _ => wanted.mistyped "text"

def asSet (wanted : Attribute) : AttributeValue → Except SolverError (ConstraintSet Float)
  | .set set => .ok set
  | _ => wanted.mistyped "set"

def asBounds (wanted : Attribute) : AttributeValue → Except SolverError (Bounds Float)
  | .bounds bounds => .ok bounds
  | _ => wanted.mistyped "bounds"

end Attribute

inductive CopyError where
  | unsupportedConstraint (backend : String) (kind : ConstraintKind)
  | unsupportedVariable (backend : String) (category : Category)
  | unsupportedObjective (backend : String) (degree : Nat)
  | receiptMismatch (kind : EntityKind) (expected actual : Nat)
  | backend (cause : SolverError)
deriving DecidableEq

namespace CopyError

def code : CopyError → String
  | unsupportedConstraint _ _ => "COPY_UNSUPPORTED_CONSTRAINT"
  | unsupportedVariable _ _ => "COPY_UNSUPPORTED_VARIABLE"
  | unsupportedObjective _ _ => "COPY_UNSUPPORTED_OBJECTIVE"
  | receiptMismatch _ _ _ => "COPY_RECEIPT_MISMATCH"
  | backend _ => "COPY_BACKEND"

def description : CopyError → String
  | .unsupportedConstraint solver kind => s!"{solver} cannot represent {kind.text} constraints"
  | .unsupportedVariable solver category =>
    s!"{solver} cannot represent {category.word} variables"
  | .unsupportedObjective solver degree =>
    s!"{solver} cannot represent a degree {degree} objective"
  | .receiptMismatch kind expected actual =>
    s!"copy returned {actual} {kind.word} indices for {expected} cached entries"
  | .backend cause => cause.message

def message (error : CopyError) : String :=
  s!"[{error.code}] {error.description}"

end CopyError

/-- Settings for every new solver instance; an absent one is left to the
solver. -/
structure Settings where
  timeLimit : Option Float := none
  silent : Option Bool := none
  threads : Option Nat := none
  tolerance : Option Float := none
  mipGap : Option Float := none

namespace Settings

/-- The attributes to be written, in a fixed order. -/
def attributeValues (settings : Settings) : List (Attribute × AttributeValue) :=
  (settings.timeLimit.map fun seconds => (.timeLimitSec, .float seconds)).toList ++
    (settings.silent.map fun flag => (.silent, .bool flag)).toList ++
    (settings.threads.map fun count => (.threads, .count count)).toList ++
    (settings.tolerance.map fun value => (.rawParameter "tolerance", .float value)).toList ++
    (settings.mipGap.map fun value => (.rawParameter "mip_gap", .float value)).toList

def isEmpty (settings : Settings) : Bool :=
  settings.attributeValues.isEmpty

end Settings

/-- The indices that a solver assigned while it copied a model, one for each
entity in the order of the model. -/
structure CopyReceipt where
  vars : List VariableIndex
  constraints : List ConstraintIndex
deriving DecidableEq

/-- The receipt of a solver that counts from zero. -/
def CopyReceipt.dense (vars constraints : Nat) : CopyReceipt :=
  ⟨(List.range vars).map SolverIndex.mk, (List.range constraints).map SolverIndex.mk⟩

end ConicModel
