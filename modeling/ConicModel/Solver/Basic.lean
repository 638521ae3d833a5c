import ConicModel.Model.Basic
import ConicModel.Solver.Attribute

/-!
Contract: what a solver must provide to be driven by a session.

Owns:
- the interface `Solver`: how a world creates instances and how it answers
  when one of them is called;
- the replies of a solver that takes a model only as a whole.

Does not own: when a call is made, or any particular solver.

All state of all instances is in the world.  An instance is only a name for a
part of it, so a call can depend on everything that happened before, and a
statement about every solver is a statement about every behaviour.
-/

namespace ConicModel

/-- A reply of a solver: a value or an error, and the world after it. -/
abbrev Reply (World α : Type) := EStateM SolverError World α

structure Solver (World Factory Instance : Type) where
  /-- Makes a new instance. -/
  create : Factory → Reply World Instance
  /-- The name of an instance in reports. -/
  name : Instance → String
  /-- Drops the model that an instance holds, and keeps its settings. -/
  empty : Instance → Reply World Unit
  /-- Copies a whole model into an empty instance. -/
  copyModel : Instance → Model Float → EStateM CopyError World CopyReceipt
  /-- Solves the model that an instance holds. -/
  optimize : Instance → Reply World Unit
  /-- Reads an attribute. -/
  get : Instance → Attribute → Reply World AttributeValue
  /-- Writes an attribute. -/
  set : Instance → Attribute → AttributeValue → Reply World Unit
  /-- Releases what an instance holds. -/
  close : Instance → World → World
  addVariable : Instance → Variable Float → Reply World VariableIndex :=
    fun _ _ => throw (.unsupportedOperation "add_variable")
  addConstraint : Instance → Constraint Float → Reply World ConstraintIndex :=
    fun _ _ => throw (.unsupportedOperation "add_constraint")
  setObjective : Instance → Option (Objective Float) → Reply World Unit :=
    fun _ _ => throw (.unsupportedOperation "set_objective")
  deleteVariable : Instance → VariableIndex → Reply World Unit :=
    fun _ _ => throw (.unsupportedOperation "delete_variable")
  deleteConstraint : Instance → ConstraintIndex → Reply World Unit :=
    fun _ _ => throw (.unsupportedOperation "delete_constraint")

end ConicModel
