import ConicModel.Model.Edit
import ConicModel.Model.Text

/-!
Contract: reading a model from its text form.

Owns:
- the grammar of lines, sets and expressions;
- the causes for which a text is refused, with the line;
- the order in which faults are noticed: within a line from the outer parts to
  the inner ones, and the model's own refusals last.

Does not own: what a model accepts, which is `Model.apply`.

A comment goes from `#` to the end of its line.  Blank lines count but say
nothing.  A label that is the whole left side of an unnamed line names a
variable, and the line then changes that variable.  In an expression a label
wins over a number of the same spelling.
-/

namespace ConicModel

inductive Malformed where
  | relationExpected (found : List Char)
  | bareVariable (set : String)
  | vectorUnterminated
  | signExpected (found : List Char)
  | tooManyFactors (term : List Char)
  | expressionIncomplete (text : List Char)
  | numberExpected (found : List Char)
  | dimensionExpected (found : List Char)
  | setExpected (found : List Char)
  | setUnknown (name : List Char)
deriving DecidableEq

def Malformed.description : Malformed → String
  | relationExpected found =>
    s!"expected a comparison or 'in', found '{String.ofList found}'"
  | bareVariable set => s!"{set} cannot constrain a bare variable"
  | vectorUnterminated => "unterminated '[' in vector function"
  | signExpected found => s!"expected '+' or '-', found '{String.ofList found}'"
  | tooManyFactors term => s!"term '{String.ofList term}' has too many factors"
  | expressionIncomplete text => s!"incomplete expression '{String.ofList text}'"
  | numberExpected found => s!"expected a number, found '{String.ofList found}'"
  | dimensionExpected found => s!"expected a dimension, found '{String.ofList found}'"
  | setExpected found => s!"expected a set like Name(...), found '{String.ofList found}'"
  | setUnknown name => s!"unknown set '{String.ofList name}'"

inductive ParseCause where
  | malformed (fault : Malformed)
  | unknownVariable (label : List Char)
  | duplicateVariable (label : List Char)
  | refused (cause : ModelError Float)

/-- A refusal and the line that caused it, counted from one. -/
structure ParseError where
  line : Nat
  cause : ParseCause

namespace ParseError

def code (error : ParseError) : String :=
  match error.cause with
  | .malformed _ => "PARSE_SYNTAX"
  | .unknownVariable _ => "PARSE_UNKNOWN_VARIABLE"
  | .duplicateVariable _ => "PARSE_DUPLICATE_VARIABLE"
  | .refused _ => "PARSE_MODEL"

def description (error : ParseError) : String :=
  match error.cause with
  | .malformed fault => fault.description
  | .unknownVariable label => s!"unknown variable '{String.ofList label}'"
  | .duplicateVariable label => s!"variable '{String.ofList label}' declared twice"
  | .refused cause => cause.message

def message (error : ParseError) : String :=
  s!"[{error.code}] line {error.line}: {error.description}"

end ParseError

namespace Model

/-- What has been read so far: the model, the labels that stand for its
variables, and the reports made on the way. -/
structure Reader where
  model : Model Float := {}
  labels : List (List Char × VariableId) := []
  events : List Event := []

namespace Reader

def lookup (labels : List (List Char × VariableId)) (label : List Char) : Option VariableId :=
  (labels.find? fun entry => entry.1 == label).map Prod.snd

/-! ## Sets and numbers -/

def number (text : List Char) : Except ParseCause Float :=
  match readNumber text with
  | some value => .ok value
  | none => .error (.malformed (.numberExpected text))

def dimension (text : List Char) : Except ParseCause Nat :=
  match readSize text with
  | some size => .ok size
  | none => .error (.malformed (.dimensionExpected text))

def splitSet (text : List Char) : Option (List Char × List Char) :=
  (Text.beforeLast ')' text).bind (Text.cut ['('])

def namedSet (name : List Char) (parameters : List (List Char)) :
    Except ParseCause (ConstraintSet Float) :=
  match String.ofList name, parameters with
  | "Integer", [] => .ok .integer
  | "ZeroOne", [] => .ok .zeroOne
  | "LessThan", [bound] => return .lessThan (← number bound)
  | "GreaterThan", [bound] => return .greaterThan (← number bound)
  | "EqualTo", [value] => return .equalTo (← number value)
  | "Interval", [lower, upper] => do
    let lower ← number lower
    let upper ← number upper
    return .interval lower upper
  | other, [size] =>
    match Cone.ofName? other with
    | some kind => return .cone kind (← dimension size)
    | none => .error (.malformed (.setUnknown name))
  | _, _ => .error (.malformed (.setUnknown name))

/-- Reads a set, written as its name and its parameters in parentheses. -/
def set (text : List Char) : Except ParseCause (ConstraintSet Float) :=
  match splitSet text with
  | some (name, parameters) => namedSet (Text.trim name) (Text.filledPieces parameters)
  | none => .error (.malformed (.setExpected text))

/-! ## Expressions -/

def known (labels : List (List Char × VariableId)) (label : List Char) :
    Except ParseCause VariableId :=
  match lookup labels label with
  | some id => .ok id
  | none => .error (.unknownVariable label)

/-- Adds the meaning of one term, under the sign before it, to `sum`. -/
def addTerm (labels : List (List Char × VariableId)) (sign : Float) (sum : Expr Float)
    (term : List Char) : Except ParseCause (Expr Float) :=
  match term.splitOn '*' with
  | [single] =>
    match lookup labels single with
    | some id => .ok { sum with linear := sum.linear ++ [(id, sign)] }
    | none => do
      let value ← number single
      return { sum with constant := sum.constant + sign * value }
  | [coefficient, label] => do
    let value ← number coefficient
    let id ← known labels label
    return { sum with linear := sum.linear ++ [(id, sign * value)] }
  | [coefficient, left, right] => do
    let value ← number coefficient
    let first ← known labels left
    let second ← known labels right
    return { sum with quadratic := sum.quadratic ++ [((first, second), sign * value)] }
  | _ => .error (.malformed (.tooManyFactors term))

def signOf (operator : List Char) : Except ParseCause Float :=
  if operator = ['+'] then .ok 1
  else if operator = ['-'] then .ok (-1)
  else .error (.malformed (.signExpected operator))

/-- Reads words that begin with a term, in which terms and operators alternate
and a term comes last. -/
def addTerms (labels : List (List Char × VariableId)) (text : List Char) (sign : Float)
    (sum : Expr Float) : List (List Char) → Except ParseCause (Expr Float)
  | [] => .error (.malformed (.expressionIncomplete text))
  | [term] => addTerm labels sign sum term
  | term :: operator :: words => do
    let sum ← addTerm labels sign sum term
    let sign ← signOf operator
    addTerms labels text sign sum words

def expression (labels : List (List Char × VariableId)) (text : List Char) :
    Except ParseCause (Expr Float) :=
  addTerms labels text 1 .zero (Text.words text)

def components (labels : List (List Char × VariableId)) :
    List (List Char) → Except ParseCause (List (Expr Float))
  | [] => .ok []
  | text :: others => do
    let first ← expression labels text
    let rest ← components labels others
    return first :: rest

/-- Reads the function of a constraint: a vector in brackets, or one
expression. -/
def function (labels : List (List Char × VariableId)) (text : List Char) :
    Except ParseCause (ConstraintFunction Float) :=
  match text with
  | '[' :: inner =>
    match Text.beforeLast ']' inner with
    | some inner => do
      return .vector (← components labels (Text.commaPieces inner))
    | none => .error (.malformed .vectorUnterminated)
  | _ => do
    return .scalar (← expression labels text)

/-! ## Lines -/

/-- A step of reading.  What has been read is kept when a step refuses. -/
abbrev Step := EStateM ParseCause Reader

/-- A part of a line that is read without changing anything. -/
def part {α : Type} : Except ParseCause α → Step α
  | .ok value => pure value
  | .error cause => throw cause

def perform (edit : Edit Float) : Step (Option EntityRef) := fun reader =>
  let events := reader.events ++ reader.model.reports edit
  match reader.model.apply edit with
  | .ok outcome => .ok outcome.created { reader with model := outcome.model, events := events }
  | .error cause => .error (.refused cause) { reader with events := events }

/-- Whether a label declares a variable without a name: `_v` and digits. -/
def isUnnamed (label : List Char) : Bool :=
  match Text.afterLiteral ['_', 'v'] label with
  | some digits => !digits.isEmpty && digits.all Char.isDigit
  | none => false

def declareOne (label : List Char) : Step Unit := do
  if (lookup (← get).labels label).isSome then throw (.duplicateVariable label)
  let id := (← get).model.vars.nextId
  let _ ← perform (.addVariable .free .continuous)
  if !isUnnamed label then
    let _ ← perform (.setName (.var id) (String.ofList label))
  modify fun reader => { reader with labels := reader.labels ++ [(label, id)] }

def declare : List (List Char) → Step Unit
  | [] => pure ()
  | label :: labels => do
    declareOne label
    declare labels

def setObjective (sense : Sense) (text : List Char) : Step Unit := do
  let expr ← part (expression (← get).labels (Text.trim text))
  let _ ← perform (.setObjective sense expr)

/-- Changes a variable: sets bounds set bounds, an equation fixes, and the
integral sets change the category. -/
def restrict (id : VariableId) : ConstraintSet Float → Step Unit
  | .lessThan bound => do let _ ← perform (.setUpperBound id bound)
  | .greaterThan bound => do let _ ← perform (.setLowerBound id bound)
  | .equalTo value => do let _ ← perform (.fix id value false)
  | .interval lower upper => do
    let _ ← perform (.setLowerBound id lower)
    let _ ← perform (.setUpperBound id upper)
  | .integer => do let _ ← perform (.setCategory id .integer)
  | .zeroOne => do let _ ← perform (.setCategory id .binary)
  | .cone kind _ => throw (.malformed (.bareVariable kind.name))

/-- Adds a constraint, and names it if the line has a name. -/
def addConstraint (name : Option (List Char)) (left : List Char) (set : ConstraintSet Float) :
    Step Unit := do
  let function ← part (function (← get).labels left)
  let constraint ← part <| match Constraint.build function set with
    | .ok constraint => .ok constraint
    | .error cause => .error (.refused (.invalidConstraint cause))
  let id := (← get).model.constraints.nextId
  let _ ← perform (.addConstraint constraint)
  match name with
  | some name => do let _ ← perform (.setName (.con id) (String.ofList name))
  | none => pure ()

/-- The sides of the first comparison found, trying `<=`, then `>=`, then `==`. -/
def splitComparison (body : List Char) :
    Option (List Char × (Float → ConstraintSet Float) × List Char) :=
  match Text.cut ['<', '='] body with
  | some (left, right) => some (Text.trim left, .lessThan, Text.trim right)
  | none =>
    match Text.cut ['>', '='] body with
    | some (left, right) => some (Text.trim left, .greaterThan, Text.trim right)
    | none =>
      (Text.cut ['=', '='] body).map fun (left, right) =>
        (Text.trim left, .equalTo, Text.trim right)

/-- The left side of a line and the set that it is related to.  Membership is
looked for before comparisons. -/
def relation (body : List Char) : Except ParseCause (List Char × ConstraintSet Float) :=
  match Text.cut [' ', 'i', 'n', ' '] body with
  | some (left, right) => return (Text.trim left, ← set (Text.trim right))
  | none =>
    match splitComparison body with
    | some (left, make, right) => return (left, make (← number right))
    | none => .error (.malformed (.relationExpected body))

def splitName (content : List Char) : Option (List Char) × List Char :=
  match Text.cut [':'] content with
  | some (name, body) => (some (Text.trim name), Text.trim body)
  | none => (none, content)

def relate (content : List Char) : Step Unit := do
  let (name, body) := splitName content
  let (left, set) ← part (relation body)
  match name, lookup (← get).labels left with
  | none, some id => restrict id set
  | name, _ => addConstraint name left set

def statement (content : List Char) : Step Unit :=
  match Text.afterLiteral "variables:".toList content with
  | some rest => declare (Text.filledPieces rest)
  | none =>
    match Text.afterLiteral "minobjective:".toList content with
    | some rest => setObjective .minimize rest
    | none =>
      match Text.afterLiteral "maxobjective:".toList content with
      | some rest => setObjective .maximize rest
      | none => relate content

/-- What a line says, without its comment and outer blanks. -/
def content (line : List Char) : List Char :=
  Text.trim (line.takeWhile (· ≠ '#'))

/-- Reads lines, the first of which has the given number. -/
def readLines : Nat → List (List Char) → EStateM ParseError Reader Unit
  | _, [] => pure ()
  | number, line :: lines => fun reader =>
    if content line = [] then readLines (number + 1) lines reader
    else
      match statement (content line) reader with
      | .ok () reader => readLines (number + 1) lines reader
      | .error cause reader => .error ⟨number, cause⟩ reader

def readText (text : String) : EStateM ParseError Reader Unit := do
  readLines 1 (text.toList.splitOn '\n')
  modify fun reader =>
    { reader with
      events := reader.events ++
        [.textRead reader.model.vars.size reader.model.constraints.size] }

end Reader

def ofText (text : String) : Except ParseError (Model Float) :=
  match Reader.readText text {} with
  | .ok () reader => .ok reader.model
  | .error error _ => .error error

end Model

end ConicModel
