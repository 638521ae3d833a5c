import ConicModel.Event
import ConicModel.Session.Configuration
import ConicModel.Session.Error
import ConicModel.Session.IndexMap
import ConicModel.Solver.Basic

/-!
Contract: the link between one model and at most one solver instance.

Owns:
- creating, configuring, filling, releasing and closing an instance;
- the correspondence of entities and indices for the last copy;
- the state of the link, which is derived from these two and never stored.

Does not own: the model, solving, or results.

An instance is closed when it is released, when it cannot be configured, when
a copy into it fails, and when the link is disposed of.  A link holds one
instance at a time and closes it before it creates another.
-/

namespace ConicModel

/-- A link: its mode, the factory and the settings of new instances, the live
instance, the correspondence of the last copy, the world of the solver, and
the reports made so far. -/
structure Link (World Factory Instance : Type) where
  mode : Mode
  factory : Option Factory
  settings : Settings
  live : Option Instance := none
  map : Option IndexMap := none
  world : World
  events : List Event := []

namespace Link

open Session (Error)

variable {World Factory Instance : Type}

/-- What an operation on a link does: a value or a refusal, and the link after
it. -/
abbrev Action (World Factory Instance α : Type) :=
  EStateM Error (Link World Factory Instance) α

def idle (configuration : Configuration Factory) (world : World) :
    Link World Factory Instance :=
  { mode := configuration.mode, factory := configuration.factory,
    settings := configuration.settings, world := world }

/-! ## Reading -/

def state (link : Link World Factory Instance) (model : Model Float) : SyncState :=
  match link.live, link.map with
  | none, _ => .empty
  | some _, map =>
    if link.mode = .direct then .synced
    else if map.any fun current => current.isCurrent model then .synced
    else .outOfSync

/-- The correspondence with a model, if the last copy was of this generation. -/
def currentMap (link : Link World Factory Instance) (model : Model Float) :
    Except Error IndexMap :=
  match link.live, link.map with
  | none, _ => .error (.notAttached .solver)
  | some _, some map => if map.isCurrent model then .ok map else .error (.stale .copy)
  | some _, none => .error (.stale .copy)

/-- The index of an entity.  Without a model it is the number of its id. -/
def indexOf (link : Link World Factory Instance) (model : Model Float) (entity : EntityRef) :
    Except Error IndexRef :=
  if link.mode = .direct then
    match entity with
    | .var id => .ok (.var ⟨id.number⟩)
    | .con id => .ok (.con ⟨id.number⟩)
  else do
    let map ← link.currentMap model
    match map.index? entity with
    | some index => return index
    | none => throw (.model (Model.unknown entity))

def unknownIndex : IndexRef → SolverError
  | .var index => .invalidVariable index
  | .con index => .invalidConstraint index

/-- The entity behind an index.  Without a model its id is the number of the
index. -/
def entityOf (link : Link World Factory Instance) (model : Model Float) (index : IndexRef) :
    Except Error EntityRef :=
  if link.mode = .direct then
    match index with
    | .var index => .ok (.var ⟨index.number⟩)
    | .con index => .ok (.con ⟨index.number⟩)
  else do
    let map ← link.currentMap model
    match map.entity? index with
    | some entity => return entity
    | none => throw (.solver (unknownIndex index))

/-! ## Single steps -/

def report (event : Event) : Action World Factory Instance Unit :=
  modify fun link => { link with events := link.events ++ [event] }

def call {α : Type} (reply : Reply World α) : Action World Factory Instance α := fun link =>
  match reply link.world with
  | .ok value world => .ok value { link with world := world }
  | .error cause world => .error (.solver cause) { link with world := world }

def requireCached (operation : String) : Action World Factory Instance Unit := do
  if (← get).mode = .direct then throw (.configuration (.unavailable operation))

def requireLive : Action World Factory Instance Instance := do
  match (← get).live with
  | some target => return target
  | none => throw (.notAttached .solver)

/-- Takes the live instance out of the link, together with the correspondence
of its copy. -/
def takeLive : Action World Factory Instance (Option Instance) := fun link =>
  .ok link.live { link with live := none, map := none }

variable (solver : Solver World Factory Instance)

def close (target : Instance) : Action World Factory Instance Unit := do
  report (.backendClosed (solver.name target))
  modify fun link => { link with world := solver.close target link.world }

/-- Writes one setting.  An instance that does not know it goes without. -/
def writeSetting (target : Instance) (setting : Attribute × AttributeValue) :
    Action World Factory Instance Unit := fun link =>
  match solver.set target setting.1 setting.2 link.world with
  | .ok () world => .ok () { link with world := world }
  | .error cause world =>
    if cause.isUnsupported then
      report (.parameterIgnored (solver.name target) setting.1.text) { link with world := world }
    else .error (.solver cause) { link with world := world }

/-- Creates and configures an instance, which then is the live one. -/
def instantiate : Action World Factory Instance Unit := do
  let link ← get
  match link.factory with
  | none => throw (.notAttached .factory)
  | some factory =>
    let target ← call (solver.create factory)
    report (.backendInstantiated (solver.name target))
    tryCatch (link.settings.attributeValues.forM (writeSetting solver target)) fun cause => do
      close solver target
      throw cause
    modify fun link => { link with live := some target, map := none }

def release : Action World Factory Instance Unit := do
  match ← takeLive with
  | none => return ()
  | some target =>
    report (.backendDetached (solver.name target))
    close solver target

/-- Copies a model into an emptied instance and pairs its entities with the
indices of the receipt. -/
def copyInto (target : Instance) (model : Model Float) :
    Action World Factory Instance IndexMap := do
  call (solver.empty target)
  let receipt ← fun link =>
    match solver.copyModel target model link.world with
    | .ok receipt world => .ok receipt { link with world := world }
    | .error cause world => .error (.copy cause) { link with world := world }
  match IndexMap.build model receipt with
  | .ok map => return map
  | .error cause => throw (.copy cause)

/-! ## Operations -/

/-- Starts a link: a configured factory is put to use at once. -/
def start : Action World Factory Instance Unit := do
  let link ← get
  if link.mode = .direct ∧ link.factory.isNone then
    throw (.configuration .factoryRequired)
  else if link.factory.isSome then instantiate solver

def attach (factory : Factory) : Action World Factory Instance Unit := do
  requireCached "attach"
  release solver
  modify fun link => { link with factory := some factory }
  instantiate solver

def reattach : Action World Factory Instance Unit := do
  requireCached "reattach"
  release solver
  instantiate solver

/-- Releases the instance and keeps the factory. -/
def detach : Action World Factory Instance Unit := do
  requireCached "detach"
  release solver

/-- Replaces the factory without putting it to use. -/
def setFactory (factory : Factory) : Action World Factory Instance Unit := do
  requireCached "set_backend"
  release solver
  modify fun link => { link with factory := some factory }

/-- Copies a model into the live instance.  If that fails, the instance is
closed. -/
def sync (model : Model Float) : Action World Factory Instance Unit := do
  requireCached "sync"
  match ← takeLive with
  | none => throw (.notAttached .solverToSync)
  | some target =>
    let map ← tryCatch (copyInto solver target model) fun cause => do
      report (.copyFailed (solver.name target) cause.code)
      close solver target
      throw cause
    report (.modelCopied (solver.name target) map.vars.size map.constraints.size
      map.generation)
    modify fun link => { link with live := some target, map := some map }

/-- Makes the live instance hold a model.  In automatic mode everything that
is missing is done; in manual mode it is asked for. -/
def prepare (model : Model Float) : Action World Factory Instance Unit := do
  let link ← get
  match link.mode with
  | .direct => return ()
  | .automatic =>
    if link.live.isNone then instantiate solver
    if (← get).state model ≠ .synced then sync solver model
  | .manual =>
    match link.state model with
    | .empty => throw (.notAttached .attachedSolver)
    | .outOfSync => throw (.stale .copyToRefresh)
    | .synced => return ()

def dispose : Action World Factory Instance Unit := do
  match ← takeLive with
  | none => return ()
  | some target => close solver target

def backendIndex (model : Model Float) (entity : EntityRef) :
    Action World Factory Instance IndexRef := fun link =>
  match link.indexOf model entity with
  | .ok index => .ok index link
  | .error cause => .error cause link

def entityBehind (model : Model Float) (index : IndexRef) :
    Action World Factory Instance EntityRef := fun link =>
  match link.entityOf model index with
  | .ok entity => .ok entity link
  | .error cause => .error cause link

end Link

end ConicModel
