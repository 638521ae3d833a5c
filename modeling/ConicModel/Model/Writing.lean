import ConicModel.Model.Edit

/-!
Contract: changes of a model in place.

Owns:
- `Model.Writing`, actions that check and write in turn, and keep what they have written when
  they are refused;
- `Model.enact`, which carries a change out check by check and write by write.

Does not own: what a change results in, which is `Model.apply`.

`Model.apply` returns no model with a refusal.  Here nothing takes a write back, so the order of
checks and writes matters.
-/

namespace ConicModel

namespace Registry

variable {kind : EntityKind} {Content : Type}

def advance (registry : Registry kind Content) : Registry kind Content :=
  { registry with next := registry.next + 1 }

/-- Puts an entity without annotations last. -/
def insert (registry : Registry kind Content) (id : EntityId kind) (content : Content) :
    Registry kind Content :=
  { registry with entries := registry.entries ++ [{ id := id, content := content }] }

end Registry

namespace Model

variable {K α : Type}

/-- What a change in place does: a value or a refusal, and the model with everything that has
been written. -/
abbrev Writing (K α : Type) := EStateM (ModelError K) (Model K) α

/-- Asks a question that may refuse.  Nothing is written. -/
def check (question : Model K → Except (ModelError K) α) : Writing K α := fun model =>
  match question model with
  | .ok value => .ok value model
  | .error cause => .error cause model

/-- Takes the name of an entity away, and says whether there was one. -/
def eraseName (entity : EntityRef) : Writing K Bool := do
  match (← get).name? entity with
  | some _ =>
    modify fun model => putName model entity none
    return true
  | none => return false

def replaceName (entity : EntityRef) (name : String) : Writing K Unit := do
  let _ ← eraseName entity
  modify fun model => putName model entity (some name)

/-- The constraint without a variable, or as it is when the variable does not occur. -/
def stripped (id : VariableId) (constraint : Constraint K) : Constraint K :=
  if constraint.function.mentions id then constraint.withoutVariable id else constraint

/-! ## Single changes -/

def enactRemoval : EntityRef → Writing K (Option EntityRef)
  | .var id => do
    check fun model => model.checkLive (.var id)
    modify fun model => { model with vars := model.vars.remove id }
    modify fun model => { model with
      objective := model.objective.map fun objective =>
        { objective with expr := objective.expr.withoutVariable id } }
    modify fun model => { model with constraints := model.constraints.mapContent (stripped id) }
    modify touch
    return none
  | .con id => do
    check fun model => model.checkLive (.con id)
    modify fun model => { model with constraints := model.constraints.remove id }
    modify touch
    return none

/-- Drops the objective, also where there is none; only a loss is counted. -/
def enactClearing : Writing K (Option EntityRef) := do
  let dropped := (← get).objective
  modify fun model => { model with objective := none }
  if dropped.isSome then modify touch
  return none

def enactCategory (id : VariableId) (category : Category) : Writing K (Option EntityRef) := do
  let found ← check fun model => model.getVariable id
  modify fun model =>
    { model with vars := model.vars.setContent id { found with category := category } }
  modify touch
  return none

/-- Sets or clears a name.  The holder of a name is looked up before any name is touched. -/
def enactName (entity : EntityRef) (name : String) : Writing K (Option EntityRef) := do
  check fun model => model.checkLive entity
  if name = "" then
    if ← eraseName entity then modify touch
    return none
  else
    check fun _ => if isValidName name then .ok () else .error (.invalidName name)
    match (← get).holder? entity.kind name with
    | some holder =>
      if holder = entity then return none
      else throw (.nameTaken entity.kind name holder)
    | none =>
      replaceName entity name
      modify touch
      return none

def enactMetadata (entity : EntityRef) (metadata : Json) : Writing K (Option EntityRef) := do
  check fun model => model.checkLive entity
  modify fun model =>
    match entity with
    | .var id => { model with vars := model.vars.setMetadata id metadata }
    | .con id => { model with constraints := model.constraints.setMetadata id metadata }
  return none

variable [ExtendedNumber K]

def enactVariable (bounds : Bounds K) (category : Category) : Writing K (Option EntityRef) := do
  let id := (← get).vars.nextId
  check fun _ => checkBounds id bounds
  modify fun model => { model with vars := model.vars.advance }
  modify fun model => { model with vars := model.vars.insert id ⟨bounds, category⟩ }
  modify touch
  return some (.var id)

/-- Replaces the bounds of a variable.  The new bounds are computed and checked first. -/
def enactBounds (id : VariableId) (update : Bounds K → Except BoundConflict (Bounds K)) :
    Writing K (Option EntityRef) := do
  let found ← check fun model => model.getVariable id
  let bounds ← check fun _ => (update found.bounds).mapError (ModelError.boundConflict id)
  check fun _ => checkBounds id bounds
  modify fun model =>
    { model with vars := model.vars.setContent id { found with bounds := bounds } }
  modify touch
  return none

variable [Zero K] [BEq K] [Add K]

def enactConstraint (constraint : Constraint K) : Writing K (Option EntityRef) := do
  check fun _ => constraint.validate.mapError ModelError.invalidConstraint
  check fun model => model.checkVariables constraint.function.vars
  let id := (← get).constraints.nextId
  modify fun model => { model with constraints := model.constraints.advance }
  modify fun model =>
    { model with constraints := model.constraints.insert id constraint.normalized }
  modify touch
  return some (.con id)

def enactObjective (sense : Sense) (expr : Expr K) : Writing K (Option EntityRef) := do
  check fun _ => expr.checkFinite.mapError ModelError.invalidExpression
  check fun model => model.checkVariables expr.vars
  modify fun model => { model with objective := some ⟨sense, expr.normalized⟩ }
  modify touch
  return none

/-! ## All changes -/

/-- Carries a change out in place; the entity that it creates, if any. -/
def enact : Edit K → Writing K (Option EntityRef)
  | .addVariable bounds category => enactVariable bounds category
  | .addConstraint constraint => enactConstraint constraint
  | .setObjective sense expr => enactObjective sense expr
  | .clearObjective => enactClearing
  | .remove entity => enactRemoval entity
  | .setLowerBound id value => enactBounds id (withLower value)
  | .setUpperBound id value => enactBounds id (withUpper value)
  | .deleteLowerBound id => enactBounds id fun bounds => .ok { bounds with lower := none }
  | .deleteUpperBound id => enactBounds id fun bounds => .ok { bounds with upper := none }
  | .fix id value force => enactBounds id (withFixed value force)
  | .unfix id => enactBounds id withoutFixed
  | .setCategory id category => enactCategory id category
  | .setName entity name => enactName entity name
  | .setMetadata entity metadata => enactMetadata entity metadata

end Model

end ConicModel
