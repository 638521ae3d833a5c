import ConicModel.Constraint.Basic
import ConicModel.Form.Basic
import ConicModel.Model.Variable
import ConicModel.Solver.Attribute

/-!
Contract: the JSON forms of ids, sets, variables and their parts.

Owns:
- one form for each type.

Does not own: the forms of what a session or a solver reports.

Ids and indices are below `2 ^ 32`.
-/

namespace ConicModel

open JsonForm

instance {kind : EntityKind} : JsonForm (EntityId kind) where
  write := fun id => .integer id.number
  read := fun json => (readBelow (Nat.pow 2 32) json).map EntityId.mk

instance {kind : EntityKind} : JsonForm (SolverIndex kind) where
  write := fun index => .integer index.number
  read := fun json => (readBelow (Nat.pow 2 32) json).map SolverIndex.mk

def EntityKind.tag : EntityKind → String
  | .var => "Variable"
  | .con => "Constraint"

instance : JsonForm EntityKind :=
  ofNames [.var, .con] EntityKind.tag

instance : JsonForm EntityRef where
  write
    | .var id => tagged EntityKind.var.tag id
    | .con id => tagged EntityKind.con.tag id
  read := fun json =>
    match splitTag json with
    | some ("Variable", some id) => (read id).map .var
    | some ("Constraint", some id) => (read id).map .con
    | _ => none

instance : JsonForm IndexRef where
  write
    | .var index => tagged EntityKind.var.tag index
    | .con index => tagged EntityKind.con.tag index
  read := fun json =>
    match splitTag json with
    | some ("Variable", some index) => (read index).map .var
    | some ("Constraint", some index) => (read index).map .con
    | _ => none

def readInterval : Json → Option (ConstraintSet Float)
  | .list [lower, upper] => do
    let lower ← read lower
    let upper ← read upper
    return .interval lower upper
  | _ => none

def readSetContent (name : String) (content : Json) : Option (ConstraintSet Float) :=
  match name with
  | "LessThan" => (read content).map .lessThan
  | "GreaterThan" => (read content).map .greaterThan
  | "EqualTo" => (read content).map .equalTo
  | "Interval" => readInterval content
  | _ => do
    let kind ← Cone.ofName? name
    let size ← read content
    return .cone kind size

instance : JsonForm (ConstraintSet Float) where
  write
    | .lessThan bound => tagged "LessThan" bound
    | .greaterThan bound => tagged "GreaterThan" bound
    | .equalTo value => tagged "EqualTo" value
    | .interval lower upper => tagged "Interval" [lower, upper]
    | .integer => .string "Integer"
    | .zeroOne => .string "ZeroOne"
    | .cone kind size => tagged kind.name size
  read := fun json =>
    match readName json with
    | some "Integer" => some .integer
    | some "ZeroOne" => some .zeroOne
    | _ =>
      match splitTag json with
      | some (name, some content) => readSetContent name content
      | _ => none

def Sense.tag : Sense → String
  | .minimize => "Minimize"
  | .maximize => "Maximize"

instance : JsonForm Sense :=
  ofNames [.minimize, .maximize] Sense.tag

def Category.tag : Category → String
  | .continuous => "Continuous"
  | .integer => "Integer"
  | .binary => "Binary"

instance : JsonForm Category :=
  ofNames [.continuous, .integer, .binary] Category.tag

instance : JsonForm (Bounds Float) where
  write := fun bounds =>
    .record [("lower", write bounds.lower), ("upper", write bounds.upper),
      ("fixed", write bounds.fixed)]
  read := fun json =>
    match columns ["lower", "upper", "fixed"] json with
    | some [lower, upper, fixed] => do
      let lower ← readColumn lower
      let upper ← readColumn upper
      let fixed ← readColumn fixed
      return ⟨lower, upper, fixed⟩
    | _ => none

instance : JsonForm (Variable Float) where
  write := fun found =>
    .record [("bounds", write found.bounds), ("category", write found.category)]
  read := fun json =>
    match columns ["bounds", "category"] json with
    | some [bounds, category] => do
      let bounds ← readColumn bounds
      let category ← readColumn category
      return ⟨bounds, category⟩
    | _ => none

def FunctionKind.tag : FunctionKind → String
  | .affine => "Affine"
  | .quadratic => "Quadratic"
  | .vectorAffine => "VectorAffine"

instance : JsonForm FunctionKind :=
  ofNames [.affine, .quadratic, .vectorAffine] FunctionKind.tag

end ConicModel
