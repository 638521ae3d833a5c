import ConicModel.Event
import ConicModel.Model.Basic

/-!
Contract: changes of a model.

Owns:
- `Model.Edit`, one constructor for each change that can be asked for;
- `Model.apply`, which performs a change or refuses it;
- the reports that a change makes.

Does not own: the text form, or anything that concerns solvers.

A refused change leaves no trace, since `apply` then returns no model.  Every
check comes before the new model is made.  The generation grows by one with
each success, except for metadata and for changes that change nothing:
clearing an absent objective or name, and giving an entity the name it has.
-/

namespace ConicModel

namespace Model

variable {K : Type}

inductive Edit (K : Type) where
  | addVariable (bounds : Bounds K) (category : Category)
  | addConstraint (constraint : Constraint K)
  | setObjective (sense : Sense) (expr : Expr K)
  | clearObjective
  | remove (entity : EntityRef)
  | setLowerBound (id : VariableId) (value : K)
  | setUpperBound (id : VariableId) (value : K)
  | deleteLowerBound (id : VariableId)
  | deleteUpperBound (id : VariableId)
  | fix (id : VariableId) (value : K) (force : Bool)
  | unfix (id : VariableId)
  | setCategory (id : VariableId) (category : Category)
  | setName (entity : EntityRef) (name : String)
  | setMetadata (entity : EntityRef) (metadata : Json)

/-- What a change gives: the changed model and the entity it created, if any. -/
structure Outcome (K : Type) where
  model : Model K
  created : Option EntityRef := none

def touch (model : Model K) : Model K :=
  { model with generation := model.generation + 1 }

/-! ## Checks -/

def checkBounds [ExtendedNumber K] (id : VariableId) (bounds : Bounds K) :
    Except (ModelError K) Unit :=
  if bounds.hasUndefined then .error (.invalidBounds bounds.lower bounds.upper)
  else if bounds.isFixed && bounds.isBounded then
    .error (.boundConflict id .fixedAndBounded)
  else if bounds.isCrossed then .error (.invalidBounds bounds.lower bounds.upper)
  else .ok ()

def checkLive (model : Model K) (entity : EntityRef) : Except (ModelError K) Unit :=
  if model.contains entity then .ok () else .error (unknown entity)

/-- Refuses variables that are not live, naming the first. -/
def checkVariables (model : Model K) : List VariableId → Except (ModelError K) Unit
  | [] => .ok ()
  | id :: others =>
    if model.vars.contains id then checkVariables model others
    else .error (.unknownVariable id)

/-- Words with a meaning of their own in the text form. -/
def reservedNames : List String :=
  ["in", "variables", "minobjective", "maxobjective"]

/-- Whether a character may follow the first one of a name. -/
def isNameChar (character : Char) : Bool :=
  character.isAlphanum || character == '_'

/-- Whether a text may be a name: a letter of the basic alphabet, then such
letters, digits or underscores, and not a reserved word. -/
def isValidName (name : String) : Bool :=
  !reservedNames.contains name &&
    match name.toList with
    | [] => false
    | first :: others => first.isAlpha && others.all isNameChar

/-! ## Single changes -/

def addVariable [ExtendedNumber K] (model : Model K) (bounds : Bounds K) (category : Category) :
    Except (ModelError K) (Outcome K) := do
  let id := model.vars.nextId
  checkBounds id bounds
  return ⟨touch { model with vars := model.vars.add ⟨bounds, category⟩ },
    some (.var id)⟩

/-- Adds a constraint in canonical form.  The checks see it as it was given. -/
def addConstraint [ExtendedNumber K] [Zero K] [BEq K] [Add K] (model : Model K)
    (constraint : Constraint K) : Except (ModelError K) (Outcome K) := do
  match constraint.validate with
  | .error cause => throw (.invalidConstraint cause)
  | .ok () =>
    checkVariables model constraint.function.vars
    return ⟨touch { model with constraints := model.constraints.add constraint.normalized },
      some (.con model.constraints.nextId)⟩

def setObjective [ExtendedNumber K] [Zero K] [BEq K] [Add K] (model : Model K) (sense : Sense)
    (expr : Expr K) : Except (ModelError K) (Outcome K) := do
  match expr.checkFinite with
  | .error cause => throw (.invalidExpression cause)
  | .ok () =>
    checkVariables model expr.vars
    return ⟨touch { model with objective := some ⟨sense, expr.normalized⟩ }, none⟩

/-- Drops the objective; without one, nothing changes. -/
def clearObjective (model : Model K) : Model K :=
  match model.objective with
  | some _ => touch { model with objective := none }
  | none => model

/-- The model without a variable, whose terms go from the objective and from
every constraint; constraints keep their dimension. -/
def dropVariable (model : Model K) (id : VariableId) : Model K :=
  { model with
    vars := model.vars.remove id
    constraints := model.constraints.mapContent fun constraint => constraint.withoutVariable id
    objective := model.objective.map fun objective =>
      { objective with expr := objective.expr.withoutVariable id } }

def remove (model : Model K) (entity : EntityRef) : Except (ModelError K) (Outcome K) := do
  checkLive model entity
  match entity with
  | .var id => return ⟨touch (dropVariable model id), none⟩
  | .con id => return ⟨touch { model with constraints := model.constraints.remove id }, none⟩

/-- Replaces the bounds of a variable by what `update` makes of them. -/
def updateBounds [ExtendedNumber K] (model : Model K) (id : VariableId)
    (update : Bounds K → Except BoundConflict (Bounds K)) : Except (ModelError K) (Outcome K) := do
  let found ← model.getVariable id
  match update found.bounds with
  | .error conflict => throw (.boundConflict id conflict)
  | .ok bounds =>
    checkBounds id bounds
    return ⟨touch { model with
      vars := model.vars.setContent id { found with bounds := bounds } }, none⟩

def withLower (value : K) (bounds : Bounds K) : Except BoundConflict (Bounds K) :=
  if bounds.isFixed then .error .lowerOnFixed else .ok { bounds with lower := some value }

def withUpper (value : K) (bounds : Bounds K) : Except BoundConflict (Bounds K) :=
  if bounds.isFixed then .error .upperOnFixed else .ok { bounds with upper := some value }

/-- The bounds of a variable fixed at `value`; other bounds give way only to
`force`. -/
def withFixed (value : K) (force : Bool) (bounds : Bounds K) :
    Except BoundConflict (Bounds K) :=
  if !force && bounds.isBounded then .error .fixOverBounds else .ok (.fixedAt value)

def withoutFixed (bounds : Bounds K) : Except BoundConflict (Bounds K) :=
  if bounds.isFixed then .ok .free else .error .notFixed

def setCategory (model : Model K) (id : VariableId) (category : Category) :
    Except (ModelError K) (Outcome K) := do
  let found ← model.getVariable id
  return ⟨touch { model with
    vars := model.vars.setContent id { found with category := category } }, none⟩

def putName (model : Model K) (entity : EntityRef) (name : Option String) : Model K :=
  match entity with
  | .var id => { model with vars := model.vars.setName id name }
  | .con id => { model with constraints := model.constraints.setName id name }

/-- Sets the name of an entity; the empty name clears it. -/
def setName (model : Model K) (entity : EntityRef) (name : String) :
    Except (ModelError K) (Outcome K) := do
  checkLive model entity
  if name = "" then
    if (model.name? entity).isSome then return ⟨touch (putName model entity none), none⟩
    else return ⟨model, none⟩
  else if !isValidName name then throw (.invalidName name)
  else
    match model.holder? entity.kind name with
    | some holder =>
      if holder = entity then return ⟨model, none⟩
      else throw (.nameTaken entity.kind name holder)
    | none => return ⟨touch (putName model entity (some name)), none⟩

/-- Sets the metadata of an entity, in the same generation. -/
def setMetadata (model : Model K) (entity : EntityRef) (metadata : Json) :
    Except (ModelError K) (Outcome K) := do
  checkLive model entity
  match entity with
  | .var id =>
    return ⟨{ model with vars := model.vars.setMetadata id metadata }, none⟩
  | .con id =>
    return ⟨{ model with constraints := model.constraints.setMetadata id metadata }, none⟩

/-! ## All changes -/

def apply [ExtendedNumber K] [Zero K] [BEq K] [Add K] (model : Model K) :
    Edit K → Except (ModelError K) (Outcome K)
  | .addVariable bounds category => model.addVariable bounds category
  | .addConstraint constraint => model.addConstraint constraint
  | .setObjective sense expr => model.setObjective sense expr
  | .clearObjective => .ok ⟨model.clearObjective, none⟩
  | .remove entity => model.remove entity
  | .setLowerBound id value => model.updateBounds id (withLower value)
  | .setUpperBound id value => model.updateBounds id (withUpper value)
  | .deleteLowerBound id => model.updateBounds id fun bounds => .ok { bounds with lower := none }
  | .deleteUpperBound id => model.updateBounds id fun bounds => .ok { bounds with upper := none }
  | .fix id value force => model.updateBounds id (withFixed value force)
  | .unfix id => model.updateBounds id withoutFixed
  | .setCategory id category => model.setCategory id category
  | .setName entity name => model.setName entity name
  | .setMetadata entity metadata => model.setMetadata entity metadata

def reports [ExtendedNumber K] [Zero K] [BEq K] [Add K] (model : Model K) (edit : Edit K) :
    List Event :=
  match edit, model.apply edit with
  | .addConstraint constraint, .ok ⟨_, some (.con id)⟩ =>
    [.constraintAdded id (.of constraint.normalized)]
  | .setObjective sense expr, .ok _ => [.objectiveSet sense.word expr.normalized.termCount]
  | .remove entity, .ok _ => [.entityRemoved entity]
  | .setName entity name, .error (.nameTaken _ _ _) => [.nameTaken entity name]
  | _, _ => []

end Model

end ConicModel
