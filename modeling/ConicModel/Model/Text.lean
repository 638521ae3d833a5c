import ConicModel.Model.Basic

/-!
Contract: the line-oriented text form of a model.

Owns:
- the written form of expressions, bounds, constraints and the objective;
- the order of the lines.

Does not own: reading a text.

A text declares its variables first:

    variables: x, y, _v2
    minobjective: 1.0*x + 2.0*y
    x >= 0.0
    _v2 in ZeroOne()
    cap: 1.0*x + 1.0*y <= 4.0
    [1.0*_v2, 1.0*x, 1.0*y] in SecondOrderCone(3)

A line for the bounds of a variable has the bare variable on its left side.  A
line for a constraint writes every coefficient, so `1.0*x <= 4.0` is a
constraint and `x <= 4.0` is a bound.
-/

namespace ConicModel.Model

/-- A signed number and the variables it is multiplied with. -/
structure Piece where
  value : Float
  labels : List (List Char)

namespace Piece

def magnitude (value : Float) (labels : List (List Char)) : List Char :=
  NumberLayout.plain.write value ++ labels.flatMap fun label => '*' :: label

/-- The first piece of an expression, with the sign of its number. -/
def first (piece : Piece) : List Char :=
  magnitude piece.value piece.labels

/-- A later piece, whose sign is the operator before it. -/
def later (piece : Piece) : List Char :=
  if Binary64.isNegative piece.value then
    [' ', '-', ' '] ++ magnitude (-piece.value) piece.labels
  else [' ', '+', ' '] ++ magnitude piece.value piece.labels

end Piece

def labelChars (model : Model Float) (id : VariableId) : List Char :=
  (model.label id).toList

/-- The pieces of the terms of an expression, the linear ones first. -/
def termPieces (model : Model Float) (expr : Expr Float) : List Piece :=
  (expr.linear.map fun term => ⟨term.2, [model.labelChars term.1]⟩) ++
    expr.quadratic.map fun term =>
      ⟨term.2, [model.labelChars term.1.1, model.labelChars term.1.2]⟩

/-- The pieces of an expression.  The constant comes last, and is left out when
it is zero and not the only piece. -/
def pieces (model : Model Float) (expr : Expr Float) : List Piece :=
  let terms := model.termPieces expr
  if expr.constant != 0 || terms.isEmpty then terms ++ [⟨expr.constant, []⟩] else terms

def exprChars (model : Model Float) (expr : Expr Float) : List Char :=
  match model.pieces expr with
  | [] => []
  | first :: others => first.first ++ others.flatMap Piece.later

/-- The comparison that stands for a set, with its bound. -/
def comparison? : ConstraintSet Float → Option (List Char × Float)
  | .lessThan bound => some (['<', '='], bound)
  | .greaterThan bound => some (['>', '='], bound)
  | .equalTo value => some (['=', '='], value)
  | _ => none

def related (left operator right : List Char) : List Char :=
  left ++ ' ' :: (operator ++ ' ' :: right)

def membership : List Char := ['i', 'n']

/-- The written form of a constraint without its name. -/
def constraintChars (model : Model Float) (constraint : Constraint Float) : List Char :=
  match constraint.function with
  | .scalar expr =>
    match comparison? constraint.set with
    | some (operator, bound) =>
      related (model.exprChars expr) operator (NumberLayout.plain.write bound)
    | none => related (model.exprChars expr) membership constraint.set.chars
  | .vector components =>
    let written := Text.join [',', ' '] (components.map model.exprChars)
    related ('[' :: (written ++ [']'])) membership constraint.set.chars

def declarationLine (model : Model Float) : List Char :=
  "variables: ".toList ++ Text.join [',', ' '] (model.vars.ids.map model.labelChars)

def objectiveLines (model : Model Float) : List (List Char) :=
  match model.objective with
  | none => []
  | some objective =>
    let keyword := match objective.sense with
      | .minimize => "minobjective: "
      | .maximize => "maxobjective: "
    [keyword.toList ++ model.exprChars objective.expr]

def boundLine (label operator : List Char) : Option Float → List (List Char)
  | none => []
  | some value => [related label operator (NumberLayout.plain.write value)]

def categoryLine (label : List Char) : Category → List (List Char)
  | .continuous => []
  | .integer => [related label membership (ConstraintSet.integer.chars)]
  | .binary => [related label membership (ConstraintSet.zeroOne.chars)]

def variableLines (model : Model Float) (entry : Entry .var (Variable Float)) :
    List (List Char) :=
  let label := model.labelChars entry.id
  boundLine label ['=', '='] entry.content.bounds.fixed ++
    boundLine label ['>', '='] entry.content.bounds.lower ++
    boundLine label ['<', '='] entry.content.bounds.upper ++
    categoryLine label entry.content.category

def constraintLine (model : Model Float) (entry : Entry .con (Constraint Float)) : List Char :=
  let named := match entry.name with
    | some name => name.toList ++ [':', ' ']
    | none => []
  named ++ model.constraintChars entry.content

def lines (model : Model Float) : List (List Char) :=
  model.declarationLine :: (model.objectiveLines ++
    model.vars.entries.flatMap model.variableLines ++
    model.constraints.entries.map model.constraintLine)

/-- The text of a model; every line ends with a line break. -/
def toText (model : Model Float) : String :=
  String.ofList (model.lines.flatMap fun line => line ++ ['\n'])

end ConicModel.Model
