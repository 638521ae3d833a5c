/-!
Contract: the identities of the things that make up an optimization model.

Owns:
- the two kinds of entity, decision variables and constraints;
- ids, which are numbers tagged with the kind they belong to;
- references to an entity of either kind.

Does not own: which ids are in use, or what an entity is.
-/

namespace ConicModel

/-- Kinds of entity.  Names are unique within a kind. -/
inductive EntityKind where
  | var
  | con
deriving DecidableEq

def EntityKind.word : EntityKind → String
  | .var => "variable"
  | .con => "constraint"

/-- The id of an entity.  Ids are handed out in increasing order and stay with
their entity for good. -/
structure EntityId (kind : EntityKind) where
  number : Nat
deriving DecidableEq

abbrev VariableId := EntityId .var

abbrev ConstraintId := EntityId .con

/-- An id as text, such as `variable#3`. -/
def EntityId.text {kind : EntityKind} (id : EntityId kind) : String :=
  s!"{kind.word}#{id.number}"

inductive EntityRef where
  | var (id : VariableId)
  | con (id : ConstraintId)
deriving DecidableEq

namespace EntityRef

def kind : EntityRef → EntityKind
  | var _ => .var
  | con _ => .con

def text : EntityRef → String
  | var id => id.text
  | con id => id.text

end EntityRef

end ConicModel
