import ConicModel.Model.Basic
import ConicModel.Solver.Attribute

/-!
Contract: the correspondence between the entities of a model and the indices
that a solver assigned while it copied the model.

Owns:
- pairing the entities with a receipt, in the order of the model;
- look-up in both directions and the counts.

Does not own: copying.

A receipt is taken as it is.  If it assigns one index twice, the index leads
back to the last entity that has it.
-/

namespace ConicModel

/-- The entities of one kind with their indices, in the order of the model. -/
structure Pairing (kind : EntityKind) where
  pairs : List (EntityId kind × SolverIndex kind)

namespace Pairing

variable {kind : EntityKind}

def index? (pairing : Pairing kind) (id : EntityId kind) : Option (SolverIndex kind) :=
  (pairing.pairs.find? fun pair => pair.1 == id).map Prod.snd

def id? (pairing : Pairing kind) (index : SolverIndex kind) : Option (EntityId kind) :=
  (pairing.pairs.reverse.find? fun pair => pair.2 == index).map Prod.fst

/-- Number of indices that lead to an entity. -/
def size (pairing : Pairing kind) : Nat :=
  (pairing.pairs.map Prod.snd).eraseDups.length

end Pairing

/-- The correspondence for one generation of a model. -/
structure IndexMap where
  generation : Nat
  vars : Pairing .var
  constraints : Pairing .con

namespace IndexMap

/-- Pairs ids with indices, if there are as many of the one as of the other. -/
def pair {kind : EntityKind} (ids : List (EntityId kind)) (indices : List (SolverIndex kind)) :
    Except CopyError (Pairing kind) :=
  if indices.length = ids.length then .ok ⟨ids.zip indices⟩
  else .error (.receiptMismatch kind ids.length indices.length)

/-- The correspondence of a model and a receipt.  The count of variables is
checked first. -/
def build {K : Type} (model : Model K) (receipt : CopyReceipt) : Except CopyError IndexMap := do
  let vars ← pair model.vars.ids receipt.vars
  let constraints ← pair model.constraints.ids receipt.constraints
  return ⟨model.generation, vars, constraints⟩

/-- Whether the model is the one that was paired, as far as generations tell. -/
def isCurrent {K : Type} (map : IndexMap) (model : Model K) : Bool :=
  map.generation == model.generation

def index? (map : IndexMap) : EntityRef → Option IndexRef
  | .var id => (map.vars.index? id).map .var
  | .con id => (map.constraints.index? id).map .con

def entity? (map : IndexMap) : IndexRef → Option EntityRef
  | .var index => (map.vars.id? index).map .var
  | .con index => (map.constraints.id? index).map .con

end IndexMap

end ConicModel
