import ConicModel.Constraint.Basic
import ConicModel.Model.Registry
import ConicModel.Model.Variable

/-!
Contract: an optimization model.

Owns:
- the variables, the constraints and the objective, with names and metadata;
- the generation, a number that changes whenever the model does;
- the causes for which a change is refused;
- look-ups and counts.

Does not own: changes, which are `Model.Edit`, or the text form.
-/

namespace ConicModel

inductive BoundConflict where
  | fixedAndBounded
  | lowerOnFixed
  | upperOnFixed
  | fixOverBounds
  | notFixed
deriving DecidableEq

def BoundConflict.reason : BoundConflict → String
  | fixedAndBounded => "a fixed variable cannot also carry lower or upper bounds"
  | lowerOnFixed => "cannot add a lower bound to a fixed variable; unfix it first"
  | upperOnFixed => "cannot add an upper bound to a fixed variable; unfix it first"
  | fixOverBounds => "variable has bounds; pass force to replace them with a fixed value"
  | notFixed => "variable is not fixed"

inductive ModelError (K : Type) where
  | unknownVariable (id : VariableId)
  | unknownConstraint (id : ConstraintId)
  /-- Crossed bounds, or bounds of which one is undefined. -/
  | invalidBounds (lower upper : Option K)
  | boundConflict (id : VariableId) (conflict : BoundConflict)
  | nameTaken (kind : EntityKind) (name : String) (holder : EntityRef)
  | invalidName (name : String)
  | invalidConstraint (cause : SetError K)
  | invalidExpression (cause : ExprError K)

namespace ModelError

def code {K : Type} : ModelError K → String
  | unknownVariable _ => "VARIABLE_INVALID_ID"
  | unknownConstraint _ => "CONSTRAINT_INVALID_ID"
  | invalidBounds _ _ => "VARIABLE_INVALID_BOUNDS"
  | boundConflict _ _ => "VARIABLE_BOUND_CONFLICT"
  | nameTaken _ _ _ => "NAME_CONFLICT"
  | invalidName _ => "NAME_INVALID"
  | invalidConstraint _ => "CONSTRAINT_INVALID"
  | invalidExpression _ => "EXPRESSION_INVALID"

/-- Whether the change contradicts something that the model already holds. -/
def isConflict {K : Type} : ModelError K → Bool
  | nameTaken _ _ _ => true
  | boundConflict _ _ => true
  | _ => false

/-- An end of bounds in a message; an absent one reads as undefined. -/
def endText : Option Float → String
  | some value => displayText value
  | none => "NaN"

def description : ModelError Float → String
  | unknownVariable id => s!"Variable ID {id.number} does not exist"
  | unknownConstraint id => s!"Constraint ID {id.number} does not exist"
  | invalidBounds lower upper =>
    s!"Variable bounds invalid: lower ({endText lower}) > upper ({endText upper})"
  | boundConflict id conflict => s!"{id.text}: {conflict.reason}"
  | nameTaken kind name holder =>
    s!"{kind.word} name '{name}' is already used by {holder.text}"
  | invalidName name =>
    s!"'{name}' is not a valid name (letter first, then letters, digits or '_'; not a keyword)"
  | invalidConstraint cause => cause.message
  | invalidExpression cause => cause.message

def message (error : ModelError Float) : String :=
  s!"[{error.code}] {error.description}"

end ModelError

/-- An optimization model.  The generation grows with every successful change
of anything but metadata. -/
structure Model (K : Type) where
  vars : Registry .var (Variable K) := {}
  constraints : Registry .con (Constraint K) := {}
  objective : Option (Objective K) := none
  generation : Nat := 0

namespace Model

variable {K : Type}

def empty : Model K := {}

def contains (model : Model K) : EntityRef → Bool
  | .var id => model.vars.contains id
  | .con id => model.constraints.contains id

def unknown : EntityRef → ModelError K
  | .var id => .unknownVariable id
  | .con id => .unknownConstraint id

def getVariable (model : Model K) (id : VariableId) : Except (ModelError K) (Variable K) :=
  match model.vars.content? id with
  | some found => .ok found
  | none => .error (.unknownVariable id)

def getConstraint (model : Model K) (id : ConstraintId) :
    Except (ModelError K) (Constraint K) :=
  match model.constraints.content? id with
  | some found => .ok found
  | none => .error (.unknownConstraint id)

def name? (model : Model K) : EntityRef → Option String
  | .var id => model.vars.name? id
  | .con id => model.constraints.name? id

def holder? (model : Model K) (kind : EntityKind) (name : String) : Option EntityRef :=
  match kind with
  | .var => (model.vars.holder? name).map .var
  | .con => (model.constraints.holder? name).map .con

def metadata? (model : Model K) : EntityRef → Option Json
  | .var id => model.vars.metadata? id
  | .con id => model.constraints.metadata? id

def namedCount (model : Model K) : EntityKind → Nat
  | .var => model.vars.namedCount
  | .con => model.constraints.namedCount

/-- The kinds of the constraints, in the order of the constraints. -/
def storedKinds (model : Model K) : List ConstraintKind :=
  model.constraints.entries.map fun entry => ConstraintKind.of entry.content

/-- Puts a kind into a strictly increasing list of kinds. -/
def insertKind (kind : ConstraintKind) : List ConstraintKind → List ConstraintKind
  | [] => [kind]
  | other :: kinds =>
    if kind.before other then kind :: other :: kinds
    else if kind = other then other :: kinds
    else other :: insertKind kind kinds

/-- The distinct kinds of the constraints, in increasing order. -/
def constraintKinds (model : Model K) : List ConstraintKind :=
  model.storedKinds.foldr insertKind []

def countOf (model : Model K) (kind : ConstraintKind) : Nat :=
  model.storedKinds.count kind

/-- The label under which a variable is written: its name, or `_v` with the
number of its id. -/
def label (model : Model K) (id : VariableId) : String :=
  (model.vars.name? id).getD s!"_v{id.number}"

end Model

end ConicModel
