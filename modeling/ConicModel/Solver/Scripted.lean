import ConicModel.Solver.Basic

/-!
Contract: a solver that answers as a script says.

Owns:
- scripts, which fix every reply;
- the world of scripted instances, which hands out indices and remembers them.

Does not own: solving.

A script is looked up by name at every call, so replacing it changes the
replies of live instances.  A name without a script has the empty one.
-/

namespace ConicModel.Scripted

/-- The replies under which attributes are listed, by their text; an attribute
that is not listed, or listed without a reply, is unsupported. -/
abbrev ReplyTable (α : Type) := List (String × Option (Except SolverError α))

structure Script where
  createError : Option SolverError := none
  emptyError : Option SolverError := none
  copyError : Option SolverError := none
  badCategories : List String := []
  badSets : List String := []
  maxDegree : Option Nat := none
  vars : Option (List Nat) := none
  constraints : Option (List Nat) := none
  optimizeError : Option SolverError := none
  gets : ReplyTable AttributeValue := []
  sets : ReplyTable Unit := []
  /-- Whether a model can be built entity by entity. -/
  direct : Bool := false
  addError : Option SolverError := none
  /-- The first index of an entity that is added by itself. -/
  offset : Nat := 0

structure Handout where
  count : Nat := 0
  live : List Nat := []

def Handout.next (handout : Handout) (offset : Nat) : Handout :=
  ⟨handout.count + 1, (handout.count + offset) :: handout.live⟩

def Handout.drop (handout : Handout) (index : Nat) : Handout :=
  { handout with live := handout.live.filter (· != index) }

structure Tally where
  vars : Handout := {}
  constraints : Handout := {}

/-- The scripts, and the tally of every instance by its serial number. -/
structure World where
  scripts : List (String × Script) := []
  tallies : List Tally := []

/-- An instance: the name of its script and its serial number. -/
structure Instance where
  script : String
  serial : Nat

namespace World

def script (world : World) (name : String) : Script :=
  ((world.scripts.find? fun entry => entry.1 == name).map Prod.snd).getD {}

def install (world : World) (name : String) (script : Script) : World :=
  { world with
    scripts := (name, script) :: world.scripts.filter fun entry => entry.1 != name }

def tally (world : World) (target : Instance) : Tally :=
  (world.tallies[target.serial]?).getD {}

def updateTally (world : World) (target : Instance) (change : Tally → Tally) : World :=
  { world with tallies := world.tallies.modify target.serial change }

end World

def scriptOf (target : Instance) : Reply World Script :=
  return (← get).script target.script

def failWith {α : Type} : Option SolverError → Reply α Unit
  | some cause => throw cause
  | none => pure ()

def replyFor {α : Type} (table : ReplyTable α) (wanted : Attribute) : Reply World α :=
  match ((table.find? fun entry => entry.1 == wanted.text).map Prod.snd).join with
  | some (.ok value) => pure value
  | some (.error cause) => throw cause
  | none => throw wanted.unsupported

/-- Why a script cannot hold a model: a scripted error, then the first bad
category, then the first bad set, then the degree of the objective. -/
def copyObstacle (name : String) (script : Script) (model : Model Float) : Option CopyError :=
  match script.copyError with
  | some cause => some (.backend cause)
  | none =>
    let badVariable := model.vars.entries.find? fun entry =>
      script.badCategories.contains entry.content.category.word
    let badConstraint := model.constraints.entries.find? fun entry =>
      script.badSets.contains entry.content.set.name
    match badVariable, badConstraint, model.objective, script.maxDegree with
    | some entry, _, _, _ => some (.unsupportedVariable name entry.content.category)
    | none, some entry, _, _ => some (.unsupportedConstraint name (.of entry.content))
    | none, none, some objective, some limit =>
      if limit < objective.expr.degree then
        some (.unsupportedObjective name objective.expr.degree)
      else none
    | none, none, _, _ => none

/-- The receipt for a model: counted from zero where the script does not say
otherwise. -/
def receipt (script : Script) (model : Model Float) : CopyReceipt :=
  let dense := CopyReceipt.dense model.vars.size model.constraints.size
  ⟨(script.vars.map fun numbers => numbers.map SolverIndex.mk).getD dense.vars,
    (script.constraints.map fun numbers => numbers.map SolverIndex.mk).getD dense.constraints⟩

/-- The script of an instance that builds models entity by entity. -/
def directScript (target : Instance) (operation : String) : Reply World Script := do
  let script ← scriptOf target
  if script.direct then pure script else throw (.unsupportedOperation operation)

/-- The scripted solver.  A factory is the name of a script. -/
def solver : Solver World String Instance where
  create := fun name => do
    failWith ((← get).script name).createError
    let serial := (← get).tallies.length
    modify fun world => { world with tallies := world.tallies ++ [{}] }
    return ⟨name, serial⟩
  name := fun target => target.script
  empty := fun target => do failWith (← scriptOf target).emptyError
  copyModel := fun target model => do
    let script := (← get).script target.script
    match copyObstacle target.script script model with
    | some cause => throw cause
    | none => return receipt script model
  optimize := fun target => do failWith (← scriptOf target).optimizeError
  get := fun target wanted => do replyFor (← scriptOf target).gets wanted
  set := fun target wanted _ => do replyFor (← scriptOf target).sets wanted
  close := fun _ world => world
  addVariable := fun target _ => do
    let script ← directScript target "add_variable"
    failWith script.addError
    let handout := ((← get).tally target).vars
    modify fun world => world.updateTally target fun tally =>
      { tally with vars := tally.vars.next script.offset }
    return ⟨handout.count + script.offset⟩
  addConstraint := fun target _ => do
    let script ← directScript target "add_constraint"
    failWith script.addError
    let handout := ((← get).tally target).constraints
    modify fun world => world.updateTally target fun tally =>
      { tally with constraints := tally.constraints.next script.offset }
    return ⟨handout.count + script.offset⟩
  setObjective := fun target _ => do
    failWith (← directScript target "set_objective").addError
  deleteVariable := fun target index => do
    let _ ← directScript target "delete_variable"
    if ((← get).tally target).vars.live.contains index.number then
      modify fun world => world.updateTally target fun tally =>
        { tally with vars := tally.vars.drop index.number }
    else throw (.invalidVariable index)
  deleteConstraint := fun target index => do
    let _ ← directScript target "delete_constraint"
    if ((← get).tally target).constraints.live.contains index.number then
      modify fun world => world.updateTally target fun tally =>
        { tally with constraints := tally.constraints.drop index.number }
    else throw (.invalidConstraint index)

end ConicModel.Scripted
