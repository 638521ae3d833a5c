import ConicModel.Solver.Basic

/-!
Contract: a transcript of the calls made to a solver.

Owns:
- the calls, each with the reply it got;
- `Solver.recorded`, which behaves like a given solver, numbers the creations,
  failed ones included, and writes every call down.

Does not own: who calls.

Reading a name is not a call.
-/

namespace ConicModel

inductive Call where
  | create (reply : Except SolverError Unit)
  | empty (reply : Except SolverError Unit)
  | copyModel (model : Model Float) (reply : Except CopyError CopyReceipt)
  | optimize (reply : Except SolverError Unit)
  | get (wanted : Attribute) (reply : Except SolverError AttributeValue)
  | set (wanted : Attribute) (value : AttributeValue) (reply : Except SolverError Unit)
  | close
  | addVariable (added : Variable Float) (reply : Except SolverError VariableIndex)
  | addConstraint (added : Constraint Float) (reply : Except SolverError ConstraintIndex)
  | setObjective (objective : Option (Objective Float)) (reply : Except SolverError Unit)
  | deleteVariable (index : VariableIndex) (reply : Except SolverError Unit)
  | deleteConstraint (index : ConstraintIndex) (reply : Except SolverError Unit)

/-- A line of a transcript: which creation the instance came from, by number
and factory, and the call. -/
structure JournalEntry (Factory : Type) where
  number : Nat
  factory : Factory
  call : Call

/-- A world with the transcript of the calls that shaped it, oldest first. -/
structure Journal (World Factory : Type) where
  world : World
  creations : Nat := 0
  entries : List (JournalEntry Factory) := []

/-- An instance with the number of its creation and its factory. -/
structure Tracked (Factory Instance : Type) where
  number : Nat
  factory : Factory
  inner : Instance

namespace Journal

variable {World Factory Instance ε α : Type}

def record (number : Nat) (factory : Factory) (action : EStateM ε World α)
    (call : Except ε α → Call) : EStateM ε (Journal World Factory) α := fun journal =>
  match action journal.world with
  | .ok value world =>
    .ok value { journal with
      world := world
      entries := journal.entries ++ [⟨number, factory, call (.ok value)⟩] }
  | .error cause world =>
    .error cause { journal with
      world := world
      entries := journal.entries ++ [⟨number, factory, call (.error cause)⟩] }

def recordOf (tracked : Tracked Factory Instance) (action : Instance → EStateM ε World α)
    (call : Except ε α → Call) : EStateM ε (Journal World Factory) α :=
  record tracked.number tracked.factory (action tracked.inner) call

/-- Creates an instance under the next number and writes the creation down. -/
def recordCreation (factory : Factory) (action : Reply World Instance) :
    Reply (Journal World Factory) (Tracked Factory Instance) := fun journal =>
  let number := journal.creations
  (do
    let inner ← record number factory action fun reply => .create (reply.map fun _ => ())
    return ⟨number, factory, inner⟩ : Reply (Journal World Factory) (Tracked Factory Instance))
    { journal with creations := number + 1 }

def recordClose (tracked : Tracked Factory Instance) (close : World → World)
    (journal : Journal World Factory) : Journal World Factory :=
  { journal with
    world := close journal.world
    entries := journal.entries ++ [⟨tracked.number, tracked.factory, .close⟩] }

end Journal

def Solver.recorded {World Factory Instance : Type} (solver : Solver World Factory Instance) :
    Solver (Journal World Factory) Factory (Tracked Factory Instance) where
  create := fun factory => Journal.recordCreation factory (solver.create factory)
  name := fun tracked => solver.name tracked.inner
  empty := fun tracked => Journal.recordOf tracked solver.empty .empty
  copyModel := fun tracked model =>
    Journal.recordOf tracked (fun inner => solver.copyModel inner model) (.copyModel model)
  optimize := fun tracked => Journal.recordOf tracked solver.optimize .optimize
  get := fun tracked wanted =>
    Journal.recordOf tracked (fun inner => solver.get inner wanted) (.get wanted)
  set := fun tracked wanted value =>
    Journal.recordOf tracked (fun inner => solver.set inner wanted value) (.set wanted value)
  close := fun tracked => Journal.recordClose tracked (solver.close tracked.inner)
  addVariable := fun tracked added =>
    Journal.recordOf tracked (fun inner => solver.addVariable inner added) (.addVariable added)
  addConstraint := fun tracked added =>
    Journal.recordOf tracked (fun inner => solver.addConstraint inner added)
      (.addConstraint added)
  setObjective := fun tracked objective =>
    Journal.recordOf tracked (fun inner => solver.setObjective inner objective)
      (.setObjective objective)
  deleteVariable := fun tracked index =>
    Journal.recordOf tracked (fun inner => solver.deleteVariable inner index)
      (.deleteVariable index)
  deleteConstraint := fun tracked index =>
    Journal.recordOf tracked (fun inner => solver.deleteConstraint inner index)
      (.deleteConstraint index)

end ConicModel
