import ConicModel.Proofs.Session.Staleness

/-!
Contract: in a session with a current record, what is read is what the record holds.

Owns:
- `Current`, a session with a model whose record describes the model;
- `Answers`, a read that comes to an outcome and leaves the session alone;
- the reads of statuses, of primal values and of dual values, as the record answers them.

Does not own: where the record comes from.
-/

namespace ConicModel.Session

variable {World Factory Instance : Type}

structure Current (session : Session World Factory Instance) (record : ResultRecord) : Prop where
  cached : session.isCached = true
  present : session.record = some record
  generation : record.generation = session.model.generation

/-- A read comes to an outcome, and nothing is asked or changed on the way. -/
def Answers (solver : Solver World Factory Instance) (session : Session World Factory Instance)
    (result : ResultRead) (outcome : Except Error Answer) : Prop :=
  step solver session (.read result) = ⟨session, .read result, outcome, session⟩

def dualOutcome (id : ConstraintId) :
    Option (Except LengthMismatch (ResultValue Float)) → Except Error Answer
  | some (.ok value) => .ok (.value value)
  | some (.error mismatch) => .error (.decode mismatch)
  | none => .error (.precondition (.dual id))

section Answers

variable {solver : Solver World Factory Instance} {session : Session World Factory Instance}
  {result : ResultRead}

theorem answers_of_ok {answer : Answer}
    (done : perform solver (.read result) session = .ok answer session) :
    Answers solver session result (.ok answer) := by
  unfold Answers step outcomeOf stateAfter
  rw [done]

theorem answers_of_error {cause : Error}
    (failed : perform solver (.read result) session = .error cause session) :
    Answers solver session result (.error cause) := by
  unfold Answers step outcomeOf stateAfter
  rw [failed]

end Answers

namespace Current

variable {solver : Solver World Factory Instance} {session : Session World Factory Instance}
  {record : ResultRecord} (current : Current session record)
include current

theorem isCurrent : record.isCurrent session.model = true :=
  beq_iff_eq.mpr current.generation

theorem requireRecord_eq :
    (requireRecord : Action World Factory Instance ResultRecord) session = .ok record session := by
  have readable : session.readableRecord = .ok record := by
    unfold readableRecord
    rw [current.present]
    exact if_pos current.isCurrent
  unfold requireRecord
  rw [readable]

theorem discardRecord_eq :
    (discard requireRecord : Action World Factory Instance PUnit) session = .ok () session := by
  show (requireRecord >>= fun _ => pure () : Action World Factory Instance PUnit) session = _
  exact bind_of_ok current.requireRecord_eq

theorem currentRecord?_eq : session.currentRecord? = some record := by
  unfold currentRecord?
  rw [current.present, Option.filter_some, if_pos current.isCurrent]

theorem recallFact_eq {α : Type} (fact : ResultSummary → α) :
    (recallFact fact : Action World Factory Instance α) session =
      .ok (fact record.summary) session := by
  unfold recallFact
  rw [get_bind, current.currentRecord?_eq]
  rfl

theorem primalStatus_eq :
    primalStatus solver session = .ok record.summary.primalStatus session :=
  (fromSource_of_cached current.cached).trans (current.recallFact_eq _)

theorem dualStatus_eq : dualStatus solver session = .ok record.summary.dualStatus session :=
  (fromSource_of_cached current.cached).trans (current.recallFact_eq _)

theorem requirePrimal_eq (values : record.summary.primalStatus.hasValues = true) :
    requirePrimal solver session = .ok () session := by
  show (if session.isCached = true then _ else _ : Action World Factory Instance Unit) session = _
  rw [if_pos current.cached]
  refine (bind_of_ok current.discardRecord_eq).trans ?_
  refine (bind_of_ok (saysValues_of_ok current.primalStatus_eq)).trans ?_
  rw [values]
  rfl

theorem requirePrimal_of_noValues (absent : record.summary.primalStatus.hasValues = false) :
    requirePrimal solver session = .error (.precondition .primal) session := by
  show (if session.isCached = true then _ else _ : Action World Factory Instance Unit) session = _
  rw [if_pos current.cached]
  refine (bind_of_ok current.discardRecord_eq).trans ?_
  refine (bind_of_ok (saysValues_of_ok current.primalStatus_eq)).trans ?_
  rw [absent]
  rfl

theorem answers_primalStatus :
    Answers solver session .primalStatus (.ok (.status record.summary.primalStatus)) :=
  answers_of_ok (bind_of_ok current.primalStatus_eq)

theorem answers_dualStatus :
    Answers solver session .dualStatus (.ok (.status record.summary.dualStatus)) :=
  answers_of_ok (bind_of_ok current.dualStatus_eq)

theorem value_eq (values : record.summary.primalStatus.hasValues = true) (id : VariableId) :
    Session.value solver id session =
      (match record.primal? id with
        | some value => pure value
        | none => throw (.model (.unknownVariable id)) :
          Action World Factory Instance Float) session := by
  refine (bind_of_ok (current.requirePrimal_eq values)).trans ?_
  refine (fromSource_of_cached current.cached).trans ?_
  exact bind_of_ok current.requireRecord_eq

theorem answers_value (values : record.summary.primalStatus.hasValues = true) {id : VariableId}
    {value : Float} (found : record.primal? id = some value) :
    Answers solver session (.value id) (.ok (.number value)) := by
  have recalled : Session.value solver id session = _ := current.value_eq values id
  rw [found] at recalled
  exact answers_of_ok (bind_of_ok recalled)

theorem recallDual_of_live {id : ConstraintId}
    (live : session.model.constraints.contains id = true) :
    (recallDual id : Action World Factory Instance _) session = .ok (record.dual? id) session := by
  show (if (!session.model.constraints.contains id) = true then _ else _ :
    Action World Factory Instance _) session = _
  rw [live, if_neg (by decide)]
  exact bind_of_ok current.requireRecord_eq

theorem hasResultDuals_eq :
    hasResultDuals solver session = .ok record.summary.dualStatus.hasValues session :=
  saysValues_of_ok current.dualStatus_eq

theorem resultDual_eq (id : ConstraintId) :
    resultDual solver (.con id) session =
      (if record.summary.dualStatus.hasValues = true then recallDual id >>= requireDual id
        else throw (.precondition .duals) : Action World Factory Instance _) session := by
  show (if session.isCached = true then _ else _ :
    Action World Factory Instance (ResultValue Float)) session = _
  rw [if_pos current.cached]
  refine (bind_of_ok current.discardRecord_eq).trans ?_
  refine (bind_of_ok current.hasResultDuals_eq).trans ?_
  cases record.summary.dualStatus.hasValues with
  | false => rfl
  | true =>
    show EStateM.bind (fromSource (askDual solver id) (recallDual id)) (requireDual id) session =
      EStateM.bind (recallDual id) (requireDual id) session
    unfold EStateM.bind
    rw [fromSource_of_cached current.cached]

/-- The dual value of a live constraint is the recorded one, or there is none for the reason
that was recorded. -/
theorem answers_dual (values : record.summary.dualStatus.hasValues = true) {id : ConstraintId}
    (live : session.model.constraints.contains id = true) :
    Answers solver session (.dual (.con id)) (dualOutcome id (record.dual? id)) := by
  have required : resultDual solver (.con id) session =
      (requireDual id (record.dual? id) : Action World Factory Instance _) session := by
    rw [current.resultDual_eq, if_pos values]
    exact bind_of_ok (current.recallDual_of_live live)
  cases recorded : record.dual? id with
  | none =>
    rw [recorded] at required
    exact answers_of_error (bind_of_error required)
  | some reported =>
    rw [recorded] at required
    cases reported with
    | ok value => exact answers_of_ok (bind_of_ok required)
    | error mismatch => exact answers_of_error (bind_of_error required)

end Current

end ConicModel.Session
