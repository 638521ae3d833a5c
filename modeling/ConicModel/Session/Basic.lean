import ConicModel.Model.Edit
import ConicModel.Session.Record

/-!
Contract: sessions, which keep a model, its link to a solver and the record of
the last solve.

Owns:
- starting and ending a session;
- changes of the model, or of what the solver holds where there is no model;
- questions about the model.

Does not own: the life of the solver, or results.

Where there is a model, a change concerns the model alone: the solver is not
called, and cannot influence what the change does.
-/

namespace ConicModel

structure Session (World Factory Instance : Type) where
  model : Model Float := {}
  link : Link World Factory Instance
  record : Option ResultRecord := none

namespace Session

variable {World Factory Instance : Type}

/-- What an operation on a session does: a value or a refusal, and the session
after it. -/
abbrev Action (World Factory Instance α : Type) :=
  EStateM Error (Session World Factory Instance) α

def idle (configuration : Configuration Factory) (world : World) :
    Session World Factory Instance :=
  { link := Link.idle configuration world }

def isCached (session : Session World Factory Instance) : Bool :=
  session.link.mode.isCached

def model? (session : Session World Factory Instance) : Option (Model Float) :=
  if session.isCached then some session.model else none

def state (session : Session World Factory Instance) : SyncState :=
  session.link.state session.model

/-- Acts on the link, for the model as it is. -/
def onLink {α : Type} (action : Model Float → Link.Action World Factory Instance α) :
    Action World Factory Instance α := fun session =>
  match action session.model session.link with
  | .ok value link => .ok value { session with link := link }
  | .error cause link => .error cause { session with link := link }

def reportAll (events : List Event) : Action World Factory Instance Unit :=
  modify fun session =>
    { session with link := { session.link with events := session.link.events ++ events } }

variable (solver : Solver World Factory Instance)

/-! ## Starting and ending -/

def start : Action World Factory Instance Unit :=
  onLink fun _ => Link.start solver

def startFromText (text : String) : Action World Factory Instance Unit := do
  if (← get).link.mode = .direct then throw (.configuration .textNeedsModel)
  match Model.Reader.readText text {} with
  | .error error reader =>
    reportAll reader.events
    throw (.parse error)
  | .ok () reader =>
    reportAll reader.events
    modify fun session => { session with model := reader.model }
    start solver

def dispose : Action World Factory Instance Unit :=
  onLink fun _ => Link.dispose solver

/-! ## Changes -/

def editName : Model.Edit Float → String
  | .addVariable _ _ => "add_variable"
  | .addConstraint _ => "add_constraint"
  | .setObjective _ _ => "set_objective"
  | .clearObjective => "clear_objective"
  | .remove _ => "remove"
  | .setLowerBound _ _ => "set_lower_bound"
  | .setUpperBound _ _ => "set_upper_bound"
  | .deleteLowerBound _ => "delete_lower_bound"
  | .deleteUpperBound _ => "delete_upper_bound"
  | .fix _ _ _ => "fix"
  | .unfix _ => "unfix"
  | .setCategory _ _ => "set_category"
  | .setName _ _ => "set_name"
  | .setMetadata entity _ => s!"set_{entity.kind.word}_metadata"

def editModel (edit : Model.Edit Float) : Action World Factory Instance (Option EntityRef) := do
  let model := (← get).model
  reportAll (model.reports edit)
  match model.apply edit with
  | .error cause => throw (.model cause)
  | .ok outcome =>
    modify fun session => { session with model := outcome.model }
    return outcome.created

def callLive {α : Type} (reply : Instance → Reply World α) : Action World Factory Instance α :=
  onLink fun _ => do
    let target ← Link.requireLive
    Link.call (reply target)

/-- Hands a change to the live instance.  The checks are those that need no
model; a change that needs one is refused. -/
def forward : Model.Edit Float → Action World Factory Instance (Option EntityRef)
  | .addVariable bounds category => do
    let index ← callLive fun target => solver.addVariable target ⟨bounds, category⟩
    return some (.var ⟨index.number⟩)
  | .addConstraint constraint =>
    match constraint.validate with
    | .error cause => throw (.model (.invalidConstraint cause))
    | .ok () => do
      let index ← callLive fun target => solver.addConstraint target constraint.normalized
      return some (.con ⟨index.number⟩)
  | .setObjective sense expr =>
    match expr.checkFinite with
    | .error cause => throw (.model (.invalidExpression cause))
    | .ok () => do
      callLive fun target => solver.setObjective target (some ⟨sense, expr.normalized⟩)
      return none
  | .clearObjective => do
    callLive fun target => solver.setObjective target none
    return none
  | .remove (.var id) => do
    callLive fun target => solver.deleteVariable target ⟨id.number⟩
    return none
  | .remove (.con id) => do
    callLive fun target => solver.deleteConstraint target ⟨id.number⟩
    return none
  | .setName (.var id) name => do
    callLive fun target => solver.set target (.variableName ⟨id.number⟩) (.text name)
    return none
  | .setName (.con id) name => do
    callLive fun target => solver.set target (.constraintName ⟨id.number⟩) (.text name)
    return none
  | edit => throw (.configuration (.needsModel (editName edit)))

/-- Performs a change; the entity that it creates, if any. -/
def edit (edit : Model.Edit Float) : Action World Factory Instance (Option EntityRef) := do
  if (← get).isCached then editModel edit else forward solver edit

/-! ## Questions about the model -/

def ask {α : Type} (question : String) (answer : Model Float → α) :
    Action World Factory Instance α := do
  let session ← get
  if session.isCached then return answer session.model
  else throw (.configuration (.needsModel question))

end Session

end ConicModel
