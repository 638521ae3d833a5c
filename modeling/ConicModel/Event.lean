import ConicModel.Constraint.Basic

/-!
Contract: the reports that a model and its session make of what they did.

Owns:
- one constructor for each thing that is reported, with the data it reports;
- the level and the fields under which a report is published.

Does not own: when a report is made, or where it goes.
-/

namespace ConicModel

inductive Event where
  | constraintAdded (id : ConstraintId) (kind : ConstraintKind)
  | objectiveSet (sense : String) (terms : Nat)
  | entityRemoved (entity : EntityRef)
  | nameTaken (entity : EntityRef) (name : String)
  | textRead (vars constraints : Nat)
  | backendInstantiated (backend : String)
  | parameterIgnored (backend parameter : String)
  | backendDetached (backend : String)
  | backendClosed (backend : String)
  | modelCopied (backend : String) (vars constraints generation : Nat)
  | copyFailed (backend code : String)
  | dualRejected (id : ConstraintId) (error : String)
  | directSolved (mode : String)
  | solved (mode termination primal dual : String) (generation : Nat)
deriving DecidableEq

namespace Event

inductive Level where
  | debug
  | warn
deriving DecidableEq

def Level.word : Level → String
  | .debug => "debug"
  | .warn => "warn"

inductive Field where
  | text (value : String)
  | count (value : Nat)
deriving DecidableEq

/-- The level of a report: a warning where something was skipped or failed. -/
def level : Event → Level
  | parameterIgnored _ _ => .warn
  | copyFailed _ _ => .warn
  | dualRejected _ _ => .warn
  | _ => .debug

def header (component operation status message : String) : List (String × Field) :=
  [("component", .text component), ("operation", .text operation), ("status", .text status),
    ("message", .text message)]

def fields : Event → List (String × Field)
  | constraintAdded id kind =>
    header "model" "add_constraint" "success" "Added constraint" ++
      [("constraint", .count id.number), ("kind", .text kind.text)]
  | objectiveSet sense terms =>
    header "model" "set_objective" "success" "Set objective function" ++
      [("sense", .text sense), ("terms", .count terms)]
  | entityRemoved entity =>
    header "model" "remove" "success" "Removed entity" ++ [("entity", .text entity.text)]
  | nameTaken entity name =>
    header "model" "set_name" "error" "Name already in use" ++
      [("entity", .text entity.text), ("name", .text name)]
  | textRead vars constraints =>
    header "model" "from_text" "success" "Parsed model text" ++
      [("variables", .count vars), ("constraints", .count constraints)]
  | backendInstantiated backend =>
    header "sync" "attach" "success" "Backend instantiated" ++ [("backend", .text backend)]
  | parameterIgnored backend parameter =>
    header "sync" "configure" "skipped" "Backend ignores parameter" ++
      [("backend", .text backend), ("attribute", .text parameter)]
  | backendDetached backend =>
    header "sync" "detach" "success" "Detaching backend" ++ [("backend", .text backend)]
  | backendClosed backend =>
    header "sync" "close" "success" "Backend closed" ++ [("backend", .text backend)]
  | modelCopied backend vars constraints generation =>
    header "sync" "copy" "success" "Copied model to backend" ++
      [("backend", .text backend), ("variables", .count vars),
        ("constraints", .count constraints), ("generation", .count generation)]
  | copyFailed backend code =>
    header "sync" "copy" "error" "Copy failed; releasing backend" ++
      [("backend", .text backend), ("code", .text code)]
  | dualRejected id error =>
    header "sync" "collect_results" "decode_failed" "Dual value could not be decoded" ++
      [("constraint", .text id.text), ("error", .text error)]
  | directSolved mode =>
    header "sync" "optimize" "success" "Optimize finished" ++ [("mode", .text mode)]
  | solved mode termination primal dual generation =>
    header "sync" "optimize" "success" "Optimize finished" ++
      [("mode", .text mode), ("termination", .text termination),
        ("primal_status", .text primal), ("dual_status", .text dual),
        ("generation", .count generation)]

end Event

end ConicModel
