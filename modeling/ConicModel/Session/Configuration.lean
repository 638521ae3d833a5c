import ConicModel.Solver.Attribute

/-!
Contract: how a session relates to a solver.

Owns:
- the modes of a session and the states of its link;
- what is decided when a session starts.

Does not own: what a mode or a state allows.
-/

namespace ConicModel

inductive Mode where
  /-- The model is the truth, and the solver receives it when needed. -/
  | automatic
  /-- The model is the truth, and the caller decides when the solver receives
  it. -/
  | manual
  /-- There is no model, and every call goes to the solver. -/
  | direct
deriving DecidableEq

namespace Mode

def word : Mode → String
  | automatic => "automatic"
  | manual => "manual"
  | direct => "direct"

def isCached : Mode → Bool
  | direct => false
  | _ => true

end Mode

inductive SyncState where
  /-- There is no solver. -/
  | empty
  /-- The solver does not hold the model as it is now. -/
  | outOfSync
  /-- The solver holds the model as it is now. -/
  | synced
deriving DecidableEq

def SyncState.word : SyncState → String
  | empty => "empty"
  | outOfSync => "out_of_sync"
  | synced => "synced"

structure Configuration (Factory : Type) where
  mode : Mode := .automatic
  factory : Option Factory := none
  settings : Settings := {}

end ConicModel
