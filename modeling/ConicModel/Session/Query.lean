import ConicModel.Session.Link

/-!
Contract: typed reads of what a solver instance reports.

Owns:
- reads that fail when the instance does not know the attribute, and reads
  that then give nothing;
- the reads behind the facts of a solve and the values of entities.

Does not own: which instance is read, or when.

A value of the wrong type is always a failure.
-/

namespace ConicModel.Link

variable {World Factory Instance : Type} (solver : Solver World Factory Instance)

/-- Interprets a value; a wrong type is the refusal. -/
def interpret {α : Type} (reading : Except SolverError α) : Action World Factory Instance α :=
  match reading with
  | .ok value => pure value
  | .error cause => throw (.solver cause)

def read {α : Type} (target : Instance) (wanted : Attribute)
    (cast : Attribute → AttributeValue → Except SolverError α) :
    Action World Factory Instance α := do
  let value ← call (solver.get target wanted)
  interpret (cast wanted value)

/-- Reads an attribute that the instance need not know. -/
def read? {α : Type} (target : Instance) (wanted : Attribute)
    (cast : Attribute → AttributeValue → Except SolverError α) :
    Action World Factory Instance (Option α) := fun link =>
  match solver.get target wanted link.world with
  | .ok value world => (some <$> interpret (cast wanted value)) { link with world := world }
  | .error cause world =>
    if cause.isUnsupported then .ok none { link with world := world }
    else .error (.solver cause) { link with world := world }

def termination (target : Instance) : Action World Factory Instance TerminationStatus :=
  read solver target .terminationStatus Attribute.asTermination

/-- A result status; an instance that does not know it has no solution. -/
def resultStatus (target : Instance) (wanted : Attribute) :
    Action World Factory Instance ResultStatus := do
  return (← read? solver target wanted Attribute.asResult).getD .noSolution

/-- The instance's own words; none if it does not know the attribute. -/
def rawStatus (target : Instance) : Action World Factory Instance String := do
  return (← read? solver target .rawStatusString Attribute.asText).getD ""

def optionalFloat (target : Instance) (wanted : Attribute) :
    Action World Factory Instance (Option Float) :=
  read? solver target wanted Attribute.asFloat

def variablePrimal (target : Instance) (index : VariableIndex) :
    Action World Factory Instance Float :=
  read solver target (.variablePrimal index) Attribute.asFloat

def constraintSet (target : Instance) (index : ConstraintIndex) :
    Action World Factory Instance (ConstraintSet Float) :=
  read solver target (.constraintSet index) Attribute.asSet

/-- The primal value of a constraint, shaped by its set. -/
def constraintPrimal (target : Instance) (index : ConstraintIndex) (set : ConstraintSet Float) :
    Action World Factory Instance (ResultValue Float) := do
  let values ← read solver target (.constraintPrimal index) Attribute.asVector
  match decode set values with
  | .ok value => return value
  | .error mismatch => throw (.decode mismatch)

/-- The dual value of a constraint, shaped by its set, or the mismatch with
it; nothing if the instance has no dual for the constraint. -/
def constraintDual? (target : Instance) (index : ConstraintIndex) (set : ConstraintSet Float) :
    Action World Factory Instance (Option (Except LengthMismatch (ResultValue Float))) := do
  let values ← read? solver target (.constraintDual index) Attribute.asVector
  return values.map (decode set)

end ConicModel.Link
