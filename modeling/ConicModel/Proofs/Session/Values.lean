import ConicModel.Proofs.Expr.Evaluation
import ConicModel.Proofs.Model.Consistency
import ConicModel.Proofs.Model.Validity
import ConicModel.Proofs.Session.Coverage

/-!
Contract: in a session with a model, primal values that are said to be there can be read.

Owns:
- what expressions and constraints come to at recorded primal values;
- `ReadsValues`, which says of every read of a primal value what it is answered;
- the fact that a session reads so exactly if it says that there are values.

Does not own: how an expression is evaluated, or how a vector is shaped.

Three invariants meet here.  A current record has a value for each live variable, stored
functions mention live variables only, and they have as many components as their set.
-/

namespace ConicModel

/-! ## Shapes -/

theorem decode_of_length {K : Type} [Zero K] {set : ConstraintSet K} {values : List K}
    (length : values.length = set.dimension) : ∃ value, decode set values = .ok value := by
  unfold decode
  rw [if_pos length]
  cases set.shape with
  | scalar => exact ⟨_, rfl⟩
  | vector _ => exact ⟨_, rfl⟩
  | triangle _ => exact ⟨_, rfl⟩
  | square _ => exact ⟨_, rfl⟩

theorem Constraint.Fits.length_components {K : Type} {constraint : Constraint K}
    (fits : constraint.Fits) :
    constraint.function.components.length = constraint.set.dimension := by
  cases isScalar : constraint.set.isScalar with
  | true =>
    obtain ⟨expr, function⟩ := fits.scalar isScalar
    have dimension : constraint.set.dimension = 1 := by
      cases set : constraint.set with
      | cone kind size =>
        rw [set] at isScalar
        cases isScalar
      | _ => rfl
    rw [function, dimension]
    rfl
  | false =>
    obtain ⟨components, function, length⟩ := fits.vector isScalar
    rw [function]
    exact length

theorem Registry.content?_isSome_iff {kind : EntityKind} {Content : Type}
    {registry : Registry kind Content} {id : EntityId kind} :
    (registry.content? id).isSome = true ↔ registry.contains id = true := by
  unfold Registry.content? Registry.entry? Registry.contains
  rw [Option.isSome_map, List.find?_isSome, List.any_eq_true]

/-- Two ways to compute from an item that agree on each item of a list agree on the list. -/
theorem mapM_of_agree {α β ε : Type} {items : List α} (find : α → Option β)
    (require : α → Except ε β)
    (each : ∀ item ∈ items, ∃ value, find item = some value ∧ require item = .ok value) :
    ∃ values, values.length = items.length ∧ items.mapM find = some values ∧
      items.mapM require = .ok values := by
  induction items with
  | nil => exact ⟨[], rfl, rfl, rfl⟩
  | cons item others inductionHypothesis =>
    obtain ⟨here, rest⟩ := List.forall_mem_cons.mp each
    obtain ⟨value, found, required⟩ := here
    obtain ⟨values, length, allFound, allRequired⟩ := inductionHypothesis rest
    refine ⟨value :: values, congrArg (· + 1) length, ?_, ?_⟩
    · rw [List.mapM_cons, found, allFound]
      rfl
    · rw [List.mapM_cons, required, allRequired]
      rfl

theorem ResultRecord.Covers.primal?_isSome_iff {record : ResultRecord} {model : Model Float}
    (covers : record.Covers model) (values : record.summary.primalStatus.hasValues = true)
    (id : VariableId) :
    (record.primal? id).isSome = true ↔ model.vars.contains id = true := by
  rw [Registry.contains_iff, ← covers.primals values]
  unfold ResultRecord.primal?
  rw [Option.isSome_map, List.find?_isSome, List.mem_map]
  simp

namespace Session

variable {World Factory Instance : Type}

/-! ## Recorded values -/

section Recorded

variable {record : ResultRecord} {expr : Expr Float}

theorem recordedValue_of_known (known : ∀ id ∈ expr.vars, (record.primal? id).isSome = true) :
    ∃ value, expr.evaluate record.primal? = some value ∧
      recordedValue record expr = .ok value := by
  have evaluates := (Expr.evaluate_isSome_iff record.primal? expr).mpr known
  obtain ⟨value, evaluated⟩ := Option.isSome_iff_exists.mp evaluates
  have unmissed : expr.vars.find? (fun id => (record.primal? id).isNone) = none :=
    List.find?_eq_none.mpr fun id member => by
      simpa using Option.isSome_iff_ne_none.mp (known id member)
  refine ⟨value, evaluated, ?_⟩
  unfold recordedValue
  rw [unmissed, evaluated]

theorem recordedValue_of_missing {id : VariableId} (mentioned : id ∈ expr.vars)
    (absent : record.primal? id = none) :
    ∃ missing ∈ expr.vars, record.primal? missing = none ∧
      recordedValue record expr = .error (.model (.unknownVariable missing)) := by
  cases found : expr.vars.find? fun id => (record.primal? id).isNone with
  | none =>
    have present := List.find?_eq_none.mp found id mentioned
    rw [absent] at present
    exact absurd rfl present
  | some missing =>
    have isMissing : (record.primal? missing).isNone = true :=
      List.find?_some (p := fun id => (record.primal? id).isNone) found
    refine ⟨missing, List.mem_of_find?_eq_some found, Option.isNone_iff_eq_none.mp isMissing, ?_⟩
    unfold recordedValue
    rw [found]

end Recorded

/-- Where primal values are known of live variables, every live constraint has a value of the
shape of its set. -/
theorem recordedComponents_of_live {record : ResultRecord} {model : Model Float}
    (consistent : model.Consistent)
    (known : ∀ id ∈ model.vars.ids, (record.primal? id).isSome = true) {id : ConstraintId}
    (live : model.constraints.contains id = true) :
    ∃ constraint values value, model.getConstraint id = .ok constraint ∧
      constraint.function.components.mapM (fun expr => expr.evaluate record.primal?) =
        some values ∧
      decode constraint.set values = .ok value ∧
      recordedComponents record model id = .ok value := by
  obtain ⟨constraint, present⟩ :=
    Option.isSome_iff_exists.mp (Registry.content?_isSome_iff.mpr live)
  have fits := consistent.fits.of_content? present
  have stored := consistent.components.of_content? present
  obtain ⟨values, length, evaluated, required⟩ :=
    mapM_of_agree (fun expr : Expr Float => expr.evaluate record.primal?) (recordedValue record)
      fun expr member => recordedValue_of_known fun id mentioned =>
        known id ((stored expr member).live id mentioned)
  obtain ⟨value, decoded⟩ := decode_of_length (length.trans fits.length_components)
  have found := Model.getConstraint_eq_ok.mpr present
  refine ⟨constraint, values, value, found, evaluated, decoded, ?_⟩
  unfold recordedComponents
  rw [found]
  dsimp only
  rw [required]
  dsimp only
  rw [decoded]

theorem recordedComponents_of_absent {record : ResultRecord} {model : Model Float}
    {id : ConstraintId} (absent : model.constraints.contains id = false) :
    recordedComponents record model id = .error (.model (.unknownConstraint id)) := by
  have missing : model.constraints.content? id = none :=
    Option.not_isSome_iff_eq_none.mp fun present => by
      rw [Registry.content?_isSome_iff.mp present] at absent
      cases absent
  unfold recordedComponents Model.getConstraint
  rw [missing]

/-! ## Reads -/

section Reads

variable {solver : Solver World Factory Instance} {session : Session World Factory Instance}

def ResultRead.isValue : ResultRead → Bool
  | .value _ | .valueOfEntity _ | .valueOfExpr _ => true
  | _ => false

/-- Where primal values cannot be required, every read of one is refused for that. -/
theorem answers_of_noPrimal {cause : Error}
    (refused : requirePrimal solver session = .error cause session) {result : ResultRead}
    (value : result.isValue = true) : Answers solver session result (.error cause) := by
  apply answers_of_error
  cases result with
  | value id => exact bind_of_error (bind_of_error refused)
  | valueOfEntity entity =>
    cases entity with
    | var id => exact bind_of_error (bind_of_error (bind_of_error refused))
    | con id => exact bind_of_error (bind_of_error refused)
  | valueOfExpr expr => exact bind_of_error (bind_of_error refused)
  | _ => cases value

namespace Current

variable {record : ResultRecord} (current : Current session record)
include current

theorem answers_hasValues :
    Answers solver session .hasValues (.ok (.flag record.summary.primalStatus.hasValues)) :=
  answers_of_ok (bind_of_ok (saysValues_of_ok current.primalStatus_eq))

variable (values : record.summary.primalStatus.hasValues = true)
include values

theorem resultValue_eq (id : ConstraintId) :
    resultValue solver (.con id) session =
      (MonadExcept.ofExcept (recordedComponents record session.model id) :
        Action World Factory Instance (ResultValue Float)) session := by
  refine (bind_of_ok (current.requirePrimal_eq values)).trans ?_
  refine (fromSource_of_cached current.cached).trans ?_
  exact bind_of_ok current.requireRecord_eq

theorem resultValueOf_eq (expr : Expr Float) :
    resultValueOf solver expr session =
      (MonadExcept.ofExcept (recordedValue record expr) :
        Action World Factory Instance Float) session := by
  refine (bind_of_ok (current.requirePrimal_eq values)).trans ?_
  show (if session.isCached = true then _ else _ : Action World Factory Instance Float) session = _
  rw [if_pos current.cached]
  exact bind_of_ok current.requireRecord_eq

end Current

/-- Reads of primal values at a point: those of live entities, and of expressions over live
variables, are answered, and every other one is refused because of an entity that is not
live. -/
structure ReadsValues (solver : Solver World Factory Instance)
    (session : Session World Factory Instance) (point : VariableId → Option Float) : Prop where
  ofVariable : ∀ id, session.model.vars.contains id = true →
    ∃ value, point id = some value ∧
      Answers solver session (.value id) (.ok (.number value)) ∧
      Answers solver session (.valueOfEntity (.var id)) (.ok (.value (.scalar value)))
  noVariable : ∀ id, session.model.vars.contains id = false →
    Answers solver session (.value id) (.error (.model (.unknownVariable id))) ∧
      Answers solver session (.valueOfEntity (.var id)) (.error (.model (.unknownVariable id)))
  ofConstraint : ∀ id, session.model.constraints.contains id = true →
    ∃ constraint values value, session.model.getConstraint id = .ok constraint ∧
      constraint.function.components.mapM (fun expr => expr.evaluate point) = some values ∧
      decode constraint.set values = .ok value ∧
      Answers solver session (.valueOfEntity (.con id)) (.ok (.value value))
  noConstraint : ∀ id, session.model.constraints.contains id = false →
    Answers solver session (.valueOfEntity (.con id)) (.error (.model (.unknownConstraint id)))
  ofExpr : ∀ expr : Expr Float, (∀ id ∈ expr.vars, session.model.vars.contains id = true) →
    ∃ value, expr.evaluate point = some value ∧
      Answers solver session (.valueOfExpr expr) (.ok (.number value))
  noExpr : ∀ expr : Expr Float,
    (∃ id ∈ expr.vars, session.model.vars.contains id = false) →
    ∃ missing ∈ expr.vars, session.model.vars.contains missing = false ∧
      Answers solver session (.valueOfExpr expr) (.error (.model (.unknownVariable missing)))

/-- Where a current record covers a consistent model, its primal values are read. -/
theorem Current.readsValues {record : ResultRecord} (current : Current session record)
    (covers : record.Covers session.model) (consistent : session.model.Consistent)
    (values : record.summary.primalStatus.hasValues = true) :
    ReadsValues solver session record.primal? := by
  have known := covers.primal?_isSome_iff values
  have unknown : ∀ id, session.model.vars.contains id = false → record.primal? id = none :=
    fun id absent => Option.not_isSome_iff_eq_none.mp fun present => by
      rw [(known id).mp present] at absent
      cases absent
  refine ⟨?_, ?_, ?_, ?_, ?_, ?_⟩
  · intro id live
    obtain ⟨value, found⟩ := Option.isSome_iff_exists.mp ((known id).mpr live)
    have recalled : Session.value solver id session = .ok value session := by
      rw [current.value_eq values, found]
      rfl
    exact ⟨value, found, answers_of_ok (bind_of_ok recalled),
      answers_of_ok (bind_of_ok (bind_of_ok recalled))⟩
  · intro id absent
    have refused : Session.value solver id session =
        .error (.model (.unknownVariable id)) session := by
      rw [current.value_eq values, unknown id absent]
      rfl
    exact ⟨answers_of_error (bind_of_error refused),
      answers_of_error (bind_of_error (bind_of_error refused))⟩
  · intro id live
    obtain ⟨constraint, components, value, found, evaluated, decoded, recorded⟩ :=
      recordedComponents_of_live consistent
        (fun id live => (known id).mpr (Registry.contains_iff.mpr live)) live
    refine ⟨constraint, components, value, found, evaluated, decoded,
      answers_of_ok (bind_of_ok ?_)⟩
    rw [current.resultValue_eq values, recorded]
    rfl
  · intro id absent
    refine answers_of_error (bind_of_error ?_)
    rw [current.resultValue_eq values, recordedComponents_of_absent absent]
    rfl
  · intro expr live
    obtain ⟨value, evaluated, recorded⟩ :=
      recordedValue_of_known fun id mentioned => (known id).mpr (live id mentioned)
    refine ⟨value, evaluated, answers_of_ok (bind_of_ok ?_)⟩
    rw [current.resultValueOf_eq values, recorded]
    rfl
  · rintro expr ⟨id, mentioned, absent⟩
    obtain ⟨missing, missingMentioned, missingAbsent, recorded⟩ :=
      recordedValue_of_missing mentioned (unknown id absent)
    refine ⟨missing, missingMentioned, ?_, answers_of_error (bind_of_error ?_)⟩
    · by_contra live
      have present := (known missing).mpr (Bool.not_eq_false _ ▸ live)
      rw [missingAbsent] at present
      cases present
    · rw [current.resultValueOf_eq values, recorded]
      rfl

/-- In every run of a session with a model: where the session says that there are primal values,
each read of one is answered from the recorded point as far as its entities are live, and
where it does not, each is refused. -/
theorem values_of_run (opened : Opened solver session) (cached : session.isCached = true)
    (operations : List (Operation Factory)) :
    let now := finish solver session operations
    ∃ available, Answers solver now .hasValues (.ok (.flag available)) ∧
      (available = true → ∃ record, now.record = some record ∧
        ReadsValues solver now record.primal?) ∧
      (available = false → ∀ result : ResultRead, result.isValue = true →
        ∃ cause, Answers solver now result (.error cause)) := by
  intro now
  have documented : Documented now := documented_finish operations (opened.documented cached)
  have consistent : now.model.Consistent :=
    Model.consistent_of_reachable (reachable_of_run cached opened.reachable operations)
  obtain ⟨record, current⟩ | ⟨cause, unreadable⟩ := current_or_unreadable documented.cached
  · refine ⟨_, current.answers_hasValues, ?_, ?_⟩
    · intro values
      exact ⟨record, current.present,
        current.readsValues (documented.covers current) consistent values⟩
    · intro absent result value
      exact ⟨_, answers_of_noPrimal (current.requirePrimal_of_noValues absent) value⟩
  · have unsolved : primalStatus solver now = .ok .noSolution now :=
      (fromSource_of_cached documented.cached).trans
        (recallFact_of_none unreadable.currentRecord? _)
    refine ⟨false, answers_of_ok (bind_of_ok (saysValues_of_ok unsolved)), nofun, ?_⟩
    intro _ result value
    exact ⟨cause, answers_of_noPrimal
      (requirePrimal_of_unreadable unreadable.cached unreadable.refused) value⟩

end Reads

/-! ## A run with a scripted solver -/

def coneOperations : List (Operation String) :=
  [.edit (.addVariable .free .continuous), .edit (.addVariable .free .continuous),
    .edit (.addConstraint ⟨.vector [⟨1, [(⟨1⟩, 2), (⟨0⟩, 1)], []⟩, ⟨0, [(⟨0⟩, 4)], []⟩],
      .cone .secondOrder 2⟩),
    .edit (.remove (.var ⟨0⟩)), .optimize]

def saysYes : Except Error Answer → Bool
  | .ok (.flag value) => value
  | _ => false

theorem values_reportingSession :
    let now := finish Scripted.solver reportingSession coneOperations
    let later := finish Scripted.solver reportingSession
      (coneOperations ++ [.edit (.setUpperBound ⟨1⟩ 4)])
    (Opened Scripted.solver reportingSession ∧ reportingSession.isCached = true) ∧
      (∃ record, now.record = some record ∧ ReadsValues Scripted.solver now record.primal?) ∧
      ∀ result : ResultRead, result.isValue = true →
        ∃ cause, Answers Scripted.solver later result (.error cause) := by
  intro now later
  have opened : Opened Scripted.solver reportingSession :=
    .start { factory := some "demo" } { scripts := [("demo", reportingScript)] } .fresh rfl
  have yes : saysYes (step Scripted.solver now (.read .hasValues)).outcome = true := by
    decide +kernel
  have no : saysYes (step Scripted.solver later (.read .hasValues)).outcome = false := by
    decide +kernel
  obtain ⟨available, answers, reads, _⟩ := values_of_run opened rfl coneOperations
  obtain ⟨availableLater, answersLater, _, refuses⟩ :=
    values_of_run opened rfl (coneOperations ++ [.edit (.setUpperBound ⟨1⟩ 4)])
  rw [answers] at yes
  rw [answersLater] at no
  exact ⟨⟨opened, rfl⟩, reads yes, refuses no⟩

end Session

end ConicModel
