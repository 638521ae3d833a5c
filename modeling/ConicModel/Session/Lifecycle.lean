import ConicModel.Session.Basic

/-!
Contract: the life of the solver of a session, and solving.

Owns:
- attaching, detaching and replacing the solver, and copying the model;
- solving, which leaves a record where there is a model;
- the correspondence of entities and indices.

Does not own: reading results.

Every operation that may replace or drop the solver forgets the record first,
also when it then fails.  Copying alone keeps it.
-/

namespace ConicModel.Session

variable {World Factory Instance : Type}

def forgetRecord : Action World Factory Instance Unit :=
  modify fun session => { session with record := none }

variable (solver : Solver World Factory Instance)

def attach (factory : Factory) : Action World Factory Instance Unit := do
  forgetRecord
  onLink fun _ => Link.attach solver factory

def reattach : Action World Factory Instance Unit := do
  forgetRecord
  onLink fun _ => Link.reattach solver

def detach : Action World Factory Instance Unit := do
  forgetRecord
  onLink fun _ => Link.detach solver

/-- Uses a factory from now on, and closes the instance. -/
def setFactory (factory : Factory) : Action World Factory Instance Unit := do
  forgetRecord
  onLink fun _ => Link.setFactory solver factory

def sync : Action World Factory Instance Unit :=
  onLink (Link.sync solver)

def runSolver : Action World Factory Instance Unit :=
  callLive solver.optimize

/-- Reads the record of the solve that has just ended. -/
def collect : Action World Factory Instance ResultRecord :=
  onLink fun model => do
    match (← get).map with
    | none => throw (.stale .mapLost)
    | some map =>
      let target ← Link.requireLive
      Link.collect solver target model map

/-- Solves.  Where there is a model, the instance is made to hold it, and a
record is left. -/
def optimize : Action World Factory Instance Unit := do
  forgetRecord
  let session ← get
  let mode := session.link.mode.word
  if session.isCached then
    onLink (Link.prepare solver)
    runSolver solver
    let record ← collect solver
    reportAll [.solved mode record.summary.termination.word record.summary.primalStatus.word
      record.summary.dualStatus.word record.generation]
    modify fun session => { session with record := some record }
  else
    runSolver solver
    reportAll [.directSolved mode]

/-- Attaches a factory where there is none yet, copies and solves. -/
def optimizeWith (factory : Factory) : Action World Factory Instance Unit := do
  let session ← get
  if !session.isCached then throw (.configuration .factoryFixed)
  else if session.link.factory.isSome then throw (.configuration .factoryConfigured)
  else
    attach solver factory
    sync solver
    optimize solver

/-- In automatic mode, makes the instance hold the model. -/
def prepareIfAutomatic : Action World Factory Instance Unit := do
  if (← get).link.mode = .automatic then onLink (Link.prepare solver)

def backendIndex (entity : EntityRef) : Action World Factory Instance IndexRef := do
  prepareIfAutomatic solver
  onLink fun model => Link.backendIndex model entity

def entityOf (index : IndexRef) : Action World Factory Instance EntityRef := do
  prepareIfAutomatic solver
  onLink fun model => Link.entityBehind model index

end ConicModel.Session
