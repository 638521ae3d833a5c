import ConicModel.Proofs.Session.Asking

/-!
Contract: a dual value is said to be there exactly if it can be read.

Owns:
- `Predicts`, the agreement of both questions about one entity;
- the agreement in each of the ways in which results are determined;
- the agreement in every run, also when other results are read in between.

Does not own: what the dual value is.

The two questions check the same things in different orders, and one of them turns every failure
into a no.  With a record the agreement needs that it mentions constraints of the model only.
-/

namespace ConicModel.Session

variable {World Factory Instance State : Type} {solver : Solver World Factory Instance}
  {holds : Session World Factory Instance → Prop} {session : Session World Factory Instance}

/-- Wherever the property holds, the dual value of the entity can be read exactly if it is said
to be there. -/
def Predicts (solver : Solver World Factory Instance)
    (holds : Session World Factory Instance → Prop) (entity : EntityRef) : Prop :=
  ∃ flag outcome, Comes holds (hasResultDual solver entity) (.ok flag) ∧
    Comes holds (resultDual solver entity) outcome ∧ (flag = true ↔ outcome.isOk = true)

theorem predicts_no {entity : EntityRef} {cause : Error}
    (no : Comes holds (hasResultDual solver entity) (.ok false))
    (refused : Comes holds (resultDual solver entity) (.error cause)) :
    Predicts solver holds entity :=
  ⟨false, .error cause, no, refused, iff_of_false nofun nofun⟩

/-- What was reported for a constraint can be read exactly if it has the right length. -/
theorem exists_requireDual (id : ConstraintId)
    (found : Option (Except LengthMismatch (ResultValue Float))) :
    ∃ outcome, Comes holds (requireDual id found) outcome ∧
      (isReadable found = true ↔ outcome.isOk = true) := by
  cases found with
  | none => exact ⟨_, comes_throw _, iff_of_false nofun nofun⟩
  | some reported =>
    cases reported with
    | ok value => exact ⟨_, comes_pure value, iff_of_true rfl rfl⟩
    | error mismatch => exact ⟨_, comes_throw _, iff_of_false nofun nofun⟩

/-- Where both questions look at what was reported for a constraint, they agree. -/
theorem predicts_found {id : ConstraintId}
    {found : Option (Except LengthMismatch (ResultValue Float))}
    (told : Comes holds (hasResultDual solver (.con id)) (.ok (isReadable found)))
    (read : ∀ {outcome}, Comes holds (requireDual id found) outcome →
      Comes holds (resultDual solver (.con id)) outcome) :
    Predicts solver holds (.con id) := by
  obtain ⟨outcome, required, agree⟩ : ∃ outcome, Comes holds (requireDual id found) outcome ∧
      (isReadable found = true ↔ outcome.isOk = true) := exists_requireDual id found
  exact ⟨_, outcome, told, read required, agree⟩

/-- Without dual values there is none of any entity. -/
theorem comes_hasResultDual_false (none : Comes holds (hasResultDuals solver) (.ok false))
    (entity : EntityRef) : Comes holds (hasResultDual solver entity) (.ok false) := by
  cases entity with
  | var id => exact comes_pure false
  | con id =>
    apply comes_bind none
    rintro _ ⟨⟩
    exact comes_pure false

/-! ## With a model -/

theorem recallDual_of_absent {id : ConstraintId}
    (absent : session.model.constraints.contains id = false) :
    (recallDual id : Action World Factory Instance _) session =
      .error (.model (.unknownConstraint id)) session := by
  show (if (!session.model.constraints.contains id) = true then _ else _ :
    Action World Factory Instance _) session = _
  rw [absent, if_pos (by decide)]
  rfl

section Recalls

variable {record : ResultRecord} {model : Model Float}

namespace Current

variable (current : Current session record)
include current

theorem resultDual_of_variable (id : VariableId) :
    resultDual solver (.var id) session = .error (.precondition .dualOfVariable) session := by
  show (if session.isCached = true then _ else _ :
    Action World Factory Instance (ResultValue Float)) session = _
  rw [if_pos current.cached]
  exact bind_of_ok current.discardRecord_eq

theorem hasResultDual_eq (values : record.summary.dualStatus.hasValues = true)
    (id : ConstraintId) :
    hasResultDual solver (.con id) session = .ok (isReadable (record.dual? id)) session := by
  refine (bind_of_ok current.hasResultDuals_eq).trans ?_
  rw [values, if_neg (by decide), get_bind, current.currentRecord?_eq]
  rfl

end Current

/-- A record that covers the model has dual values of its constraints only. -/
theorem isReadable_of_absent (covers : record.Covers model) {id : ConstraintId}
    (absent : model.constraints.contains id = false) : isReadable (record.dual? id) = false := by
  cases found : record.dual? id with
  | none => rfl
  | some reported =>
    obtain ⟨pair, member, _⟩ := Option.map_eq_some_iff.mp found
    have matching := List.find?_some member
    have live : model.constraints.contains id = true := by
      rw [Registry.contains_iff, ← beq_iff_eq.mp matching]
      exact covers.duals pair (List.mem_of_find?_eq_some member)
    rw [absent] at live
    cases live

theorem predicts_of_noRecordedDuals (absent : record.summary.dualStatus.hasValues = false)
    (id : ConstraintId) :
    Predicts solver (Recalls record model : Session World Factory Instance → Prop)
      (.con id) := by
  have none : Comes (Recalls record model : Session World Factory Instance → Prop)
      (hasResultDuals solver) (.ok false) :=
    comes_of_ok fun session held => absent ▸ held.current.hasResultDuals_eq
  have refused : Comes (Recalls record model : Session World Factory Instance → Prop)
      (resultDual solver (.con id)) (.error (.precondition .duals)) :=
    comes_of_error fun session held => by
      rw [held.current.resultDual_eq, absent]
      rfl
  exact predicts_no (comes_hasResultDual_false none _) refused

/-- Only the read checks that the constraint is live.  The record makes up for that. -/
theorem predicts_of_recordedDuals (covers : record.Covers model)
    (values : record.summary.dualStatus.hasValues = true) (id : ConstraintId) :
    Predicts solver (Recalls record model : Session World Factory Instance → Prop)
      (.con id) := by
  have told : Comes (Recalls record model : Session World Factory Instance → Prop)
      (hasResultDual solver (.con id)) (.ok (isReadable (record.dual? id))) :=
    comes_of_ok fun session held => held.current.hasResultDual_eq values id
  cases live : model.constraints.contains id with
  | false =>
    have refused : Comes (Recalls record model : Session World Factory Instance → Prop)
        (resultDual solver (.con id)) (.error (.model (.unknownConstraint id))) :=
      comes_of_error fun session held => by
        rw [held.current.resultDual_eq, if_pos values]
        exact bind_of_error (recallDual_of_absent (held.model ▸ live))
    exact predicts_no (isReadable_of_absent covers live ▸ told) refused
  | true =>
    refine predicts_found told fun required session held => ?_
    unfold Ends
    rw [held.current.resultDual_eq, if_pos values,
      bind_of_ok (held.current.recallDual_of_live (held.model ▸ live))]
    exact required session held

theorem predicts_of_recalls (covers : record.Covers model) (entity : EntityRef) :
    Predicts solver (Recalls record model : Session World Factory Instance → Prop) entity := by
  cases entity with
  | var id =>
    exact predicts_no (comes_pure false)
      (comes_of_error fun session held => held.current.resultDual_of_variable id)
  | con id =>
    cases values : record.summary.dualStatus.hasValues with
    | false => exact predicts_of_noRecordedDuals values id
    | true => exact predicts_of_recordedDuals covers values id

end Recalls

theorem predicts_of_unreadable (cause : Error) (entity : EntityRef) :
    Predicts solver (Unreadable cause : Session World Factory Instance → Prop) entity := by
  have none : Comes (Unreadable cause : Session World Factory Instance → Prop)
      (hasResultDuals solver) (.ok false) :=
    comes_of_ok fun session held => saysValues_of_ok
      ((fromSource_of_cached held.cached).trans (recallFact_of_none held.currentRecord? _))
  exact predicts_no (comes_hasResultDual_false none entity)
    (comes_of_error fun session held =>
      resultDual_of_unreadable held.cached held.refused entity)

/-! ## Without a model -/

section Shows

variable {view : World → State} {target : Instance} {shown : State}
  {answer : State → Instance → Attribute → Except SolverError AttributeValue}
  (answers : solver.AnswersFrom view answer)
include answers

/-- What the instance says of the dual status decides whether there are dual values. -/
theorem comes_hasResultDuals :
    Comes (Shows view target shown : Session World Factory Instance → Prop)
      (hasResultDuals solver)
      (.ok (saysOutcome (Link.statusFrom (answer shown target) .dualStatus))) :=
  comes_saysValues (comes_fromSource (Link.comes_resultStatus answers _))

/-- Where there are dual values, the dual value is there if asking for it succeeds. -/
theorem comes_hasResultDual
    (values : saysOutcome (Link.statusFrom (answer shown target) .dualStatus) = true)
    (id : ConstraintId) :
    Comes (Shows view target shown : Session World Factory Instance → Prop)
      (hasResultDual solver (.con id))
      (tryCatch (isReadable <$> Link.dualFrom (answer shown target) ⟨id.number⟩)
        fun _ => .ok false) := by
  refine comes_bind_of_ok (comes_hasResultDuals answers) ?_
  rw [values, if_neg (by decide)]
  apply comes_ofState
  intro session shows
  rw [shows.currentRecord?]
  apply comes_ofState
  intro session shows
  rw [shows.resultSource?]
  exact comes_tryCatch
    (comes_bind (comes_onLink fun _ => Link.comes_askDual answers id) fun _ _ => comes_pure _)
    fun _ => comes_pure false

/-- Reading a dual value asks whether there are any first. -/
theorem comes_resultDual_of_noValues
    (absent : saysOutcome (Link.statusFrom (answer shown target) .dualStatus) = false)
    (id : ConstraintId) :
    Comes (Shows view target shown : Session World Factory Instance → Prop)
      (resultDual solver (.con id)) (.error (.precondition .duals)) := by
  apply comes_ofState
  intro session shows
  rw [shows.attached.direct, if_neg (by decide)]
  refine comes_bind_of_ok (comes_hasResultDuals answers) ?_
  rw [absent]
  exact comes_bind_of_error (comes_throw _)

theorem comes_resultDual
    (values : saysOutcome (Link.statusFrom (answer shown target) .dualStatus) = true)
    {id : ConstraintId} {outcome : Except Error (ResultValue Float)}
    (asked : Comes (Shows view target shown : Session World Factory Instance → Prop)
      (fromSource (askDual solver id) (recallDual id) >>= requireDual id) outcome) :
    Comes (Shows view target shown) (resultDual solver (.con id)) outcome := by
  apply comes_ofState
  intro session shows
  rw [shows.attached.direct, if_neg (by decide)]
  refine comes_bind_of_ok (comes_hasResultDuals answers) ?_
  rw [values]
  exact asked

omit answers in
theorem comes_resultDual_of_variable (id : VariableId) :
    Comes (Shows view target shown : Session World Factory Instance → Prop)
      (resultDual solver (.var id)) (.error (.precondition .dualOfVariable)) := by
  apply comes_ofState
  intro session shows
  rw [shows.attached.direct, if_neg (by decide)]
  exact comes_throw _

theorem predicts_of_shows (entity : EntityRef) :
    Predicts solver (Shows view target shown : Session World Factory Instance → Prop)
      entity := by
  cases entity with
  | var id => exact predicts_no (comes_pure false) (comes_resultDual_of_variable id)
  | con id =>
    cases values : saysOutcome (Link.statusFrom (answer shown target) .dualStatus) with
    | false =>
      exact predicts_no (comes_hasResultDual_false (values ▸ comes_hasResultDuals answers) _)
        (comes_resultDual_of_noValues answers values id)
    | true =>
      have told := comes_hasResultDual answers values id
      have asked : Comes (Shows view target shown : Session World Factory Instance → Prop)
          (fromSource (askDual solver id) (recallDual id))
          (Link.dualFrom (answer shown target) ⟨id.number⟩) :=
        comes_fromSource (Link.comes_askDual answers id)
      cases dual : Link.dualFrom (answer shown target) ⟨id.number⟩ with
      | error cause =>
        rw [dual] at told asked
        exact predicts_no told (comes_resultDual answers values (comes_bind_of_error asked))
      | ok found =>
        rw [dual] at told asked
        exact predicts_found told fun required =>
          comes_resultDual answers values (comes_bind_of_ok asked required)

end Shows

/-! ## In every run -/

section Runs

variable {view : World → State} {answer : State → Instance → Attribute →
  Except SolverError AttributeValue}

theorem predicts_of_determines (determines : Determines solver view answer holds)
    (entity : EntityRef) : Predicts solver holds entity := by
  cases determines with
  | recalls covers => exact predicts_of_recalls covers entity
  | unreadable cause => exact predicts_of_unreadable cause entity
  | shows answers target shown => exact predicts_of_shows answers entity

/-- After every run a dual value is said to be there exactly if it can be read, and reading
results in between changes neither answer. -/
theorem dual_foretold (opened : Opened solver session)
    (answers : session.isCached = false → solver.AnswersFrom view answer)
    (operations : List (Operation Factory)) (entity : EntityRef) :
    ∃ flag outcome, (flag = true ↔ ∃ value, outcome = .ok (.value value)) ∧
      ∀ reads : List ResultRead,
        let now := finish solver (finish solver session operations) (reads.map .read)
        (step solver now (.read (.hasDual entity))).outcome = .ok (.flag flag) ∧
          (step solver now (.read (.dual entity))).outcome = outcome := by
  obtain ⟨holds, determines, held⟩ := exists_determines opened answers operations
  obtain ⟨flag, found, told, read, agree⟩ := predicts_of_determines determines entity
  refine ⟨flag, found.map .value, agree.trans ?_, fun reads => ?_⟩
  · cases found with
    | ok value => exact iff_of_true rfl ⟨value, rfl⟩
    | error cause => exact iff_of_false nofun nofun
  · have heldNow := determines.reads reads held
    exact ⟨outcome_of_comes (comes_map told) heldNow, outcome_of_comes (comes_map read) heldNow⟩

end Runs

/-! ## A run with a scripted solver -/

/-- A script with a dual value of the first constraint only. -/
def pricedScript : Scripted.Script where
  direct := true
  gets := [("DualStatus", some (.ok (.result .feasiblePoint))),
    ("ConstraintSet(backend_constraint[0])", some (.ok (.set (.cone .nonnegatives 2)))),
    ("ConstraintDual(backend_constraint[0])", some (.ok (.vector [1, 3])))]

def pricedSession : Session Scripted.World String Scripted.Instance :=
  stateAfter (start Scripted.solver)
    (idle { mode := .direct, factory := some "demo" } { scripts := [("demo", pricedScript)] })

theorem dual_foretold_pricedSession :
    (Opened Scripted.solver pricedSession ∧
        Scripted.solver.AnswersFrom id Scripted.solver.replyIn) ∧
      (∃ value, (step Scripted.solver pricedSession (.read (.dual (.con ⟨0⟩)))).outcome =
        .ok (.value value)) ∧
      ¬ ∃ value, (step Scripted.solver pricedSession (.read (.dual (.con ⟨1⟩)))).outcome =
        .ok (.value value) := by
  have opened : Opened Scripted.solver pricedSession :=
    .start { mode := .direct, factory := some "demo" } { scripts := [("demo", pricedScript)] }
      .fresh rfl
  have answers := Solver.answersFrom_replyIn Scripted.stateAfter_get
  have yes : (step Scripted.solver pricedSession (.read (.hasDual (.con ⟨0⟩)))).outcome =
      .ok (.flag true) := rfl
  have no : (step Scripted.solver pricedSession (.read (.hasDual (.con ⟨1⟩)))).outcome =
      .ok (.flag false) := rfl
  obtain ⟨flag, _, agree, told⟩ := dual_foretold opened (fun _ => answers) [] (.con ⟨0⟩)
  obtain ⟨other, _, agreeOther, toldOther⟩ := dual_foretold opened (fun _ => answers) [] (.con ⟨1⟩)
  obtain ⟨toldFlag, toldOutcome⟩ := told []
  obtain ⟨otherFlag, otherOutcome⟩ := toldOther []
  refine ⟨⟨opened, answers⟩, ?_, ?_⟩
  · cases toldFlag.symm.trans yes
    obtain ⟨value, read⟩ := agree.mp rfl
    exact ⟨value, toldOutcome.trans read⟩
  · cases otherFlag.symm.trans no
    rintro ⟨value, read⟩
    exact Bool.false_ne_true (agreeOther.mpr ⟨value, otherOutcome.symm.trans read⟩)

end ConicModel.Session
