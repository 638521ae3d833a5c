import ConicModel.Session.Lifecycle
import ConicModel.Session.Results

/-!
Contract: everything that can be asked of a session.

Owns:
- `Session.Operation`, one constructor for each thing that can be asked;
- `Session.Answer`, the values that come back;
- `Session.perform`, which carries an operation out.

Does not own: what an operation does.
-/

namespace ConicModel.Session

inductive Question where
  | name (entity : EntityRef)
  | holder (kind : EntityKind) (name : String)
  | isValid (entity : EntityRef)
  | size (kind : EntityKind)
  | countOf (kind : ConstraintKind)
  | constraintKinds
  | metadata (entity : EntityRef)
  | text
deriving DecidableEq

def Question.word : Question → String
  | name _ => "name"
  | holder kind _ => s!"{kind.word}_by_name"
  | isValid _ => "is_valid"
  | size kind => s!"num_{kind.word}s"
  | countOf _ => "num_constraints_of"
  | constraintKinds => "constraint_kinds"
  | metadata entity => s!"{entity.kind.word}_metadata"
  | text => "to_text"

inductive ResultRead where
  | summary
  | terminationStatus
  | primalStatus
  | dualStatus
  | rawStatus
  | resultCount
  | hasValues
  | hasDuals
  | objectiveValue
  | dualObjectiveValue
  | objectiveBound
  | solveTime
  | value (id : VariableId)
  | valueOfEntity (entity : EntityRef)
  | valueOfExpr (expr : Expr Float)
  | dual (entity : EntityRef)
  | hasDual (entity : EntityRef)

inductive Operation (Factory : Type) where
  | edit (edit : Model.Edit Float)
  | ask (question : Question)
  | attach (factory : Factory)
  | reattach
  | detach
  | setFactory (factory : Factory)
  | sync
  | optimize
  | optimizeWith (factory : Factory)
  | backendIndex (entity : EntityRef)
  | entityOf (index : IndexRef)
  | read (result : ResultRead)

inductive Answer where
  | done
  | flag (value : Bool)
  | count (value : Nat)
  | text (value : String)
  | number (value : Float)
  | entity (entity : EntityRef)
  | index (index : IndexRef)
  | name (found : Option String)
  | holder (found : Option EntityRef)
  | metadata (found : Option Json)
  | kinds (kinds : List ConstraintKind)
  | summary (facts : ResultSummary)
  | termination (status : TerminationStatus)
  | status (status : ResultStatus)
  | value (value : ResultValue Float)

def Question.answer (question : Question) (model : Model Float) : Answer :=
  match question with
  | .name entity => .name (model.name? entity)
  | .holder kind label => .holder (model.holder? kind label)
  | .isValid entity => .flag (model.contains entity)
  | .size .var => .count model.vars.size
  | .size .con => .count model.constraints.size
  | .countOf kind => .count (model.countOf kind)
  | .constraintKinds => .kinds model.constraintKinds
  | .metadata entity => .metadata (model.metadata? entity)
  | .text => .text model.toText

variable {World Factory Instance : Type} (solver : Solver World Factory Instance)

def readResult : ResultRead → Action World Factory Instance Answer
  | .summary => .summary <$> resultSummary solver
  | .terminationStatus => .termination <$> terminationStatus solver
  | .primalStatus => .status <$> primalStatus solver
  | .dualStatus => .status <$> dualStatus solver
  | .rawStatus => .text <$> rawStatus solver
  | .resultCount => .count <$> resultCount solver
  | .hasValues => .flag <$> hasResultValues solver
  | .hasDuals => .flag <$> hasResultDuals solver
  | .objectiveValue => .number <$> objectiveValue solver
  | .dualObjectiveValue => .number <$> dualObjectiveValue solver
  | .objectiveBound => .number <$> objectiveBound solver
  | .solveTime => .number <$> solveTime solver
  | .value id => .number <$> value solver id
  | .valueOfEntity entity => .value <$> resultValue solver entity
  | .valueOfExpr expr => .number <$> resultValueOf solver expr
  | .dual entity => .value <$> resultDual solver entity
  | .hasDual entity => .flag <$> hasResultDual solver entity

def perform : Operation Factory → Action World Factory Instance Answer
  | .edit change => do
    match ← edit solver change with
    | some created => return .entity created
    | none => return .done
  | .ask question => ask question.word question.answer
  | .attach factory => do attach solver factory; return .done
  | .reattach => do reattach solver; return .done
  | .detach => do detach solver; return .done
  | .setFactory factory => do setFactory solver factory; return .done
  | .sync => do sync solver; return .done
  | .optimize => do optimize solver; return .done
  | .optimizeWith factory => do optimizeWith solver factory; return .done
  | .backendIndex entity => .index <$> backendIndex solver entity
  | .entityOf index => .entity <$> entityOf solver index
  | .read result => readResult solver result

end ConicModel.Session
