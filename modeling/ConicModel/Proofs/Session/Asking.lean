import ConicModel.Proofs.Session.Coverage
import ConicModel.Proofs.Session.Direct
import ConicModel.Proofs.Session.Outcome

/-!
Contract: what determines the results that a session reads.

Owns:
- `Solver.AnswersFrom`, for solvers whose answers are a function of what is in view, and the
  scripted solver as one of them;
- what each read of an instance comes to when the answers are known;
- `Determines`, the three ways in which the results of a session are settled: by a current record,
  by the want of one, and by what the instance shows;
- the fact that every run leads to one of them, and that reading keeps it.

Does not own: which reads a result takes.

A solver may keep count of the questions it is asked, so its world changes with each of them.
What is assumed is that the answers depend on a view of the world that no question changes.
-/

namespace ConicModel

variable {World Factory Instance State α : Type}

/-- The answers to questions are a function of what is in view, which no question changes. -/
def Solver.AnswersFrom (solver : Solver World Factory Instance) (view : World → State)
    (answer : State → Instance → Attribute → Except SolverError AttributeValue) : Prop :=
  ∀ shown target wanted,
    Comes (fun world => view world = shown) (solver.get target wanted)
      (answer shown target wanted)

def Solver.replyIn (solver : Solver World Factory Instance) (world : World) (target : Instance)
    (wanted : Attribute) : Except SolverError AttributeValue :=
  match solver.get target wanted world with
  | .ok value _ => .ok value
  | .error cause _ => .error cause

/-- If questions leave the world alone, all of it may be in view. -/
theorem Solver.answersFrom_replyIn {solver : Solver World Factory Instance}
    (still : ∀ target wanted world, stateAfter (solver.get target wanted) world = world) :
    solver.AnswersFrom id solver.replyIn := by
  rintro _ target wanted world rfl
  have left := still target wanted world
  unfold stateAfter at left
  unfold Ends Solver.replyIn
  rw [id_eq]
  cases reply : solver.get target wanted world with
  | ok value after =>
    rw [reply] at left
    exact ⟨rfl, left⟩
  | error cause after =>
    rw [reply] at left
    exact ⟨rfl, left⟩

/-- A scripted solver looks its answers up. -/
theorem Scripted.stateAfter_get (target : Scripted.Instance) (wanted : Attribute)
    (world : Scripted.World) : stateAfter (Scripted.solver.get target wanted) world = world := by
  show stateAfter (Scripted.replyFor (world.script target.script).gets wanted) world = world
  unfold Scripted.replyFor
  split <;> rfl

namespace Link

/-! ## Reading settled answers -/

section From

variable (replies : Attribute → Except SolverError AttributeValue)

def readFrom (wanted : Attribute) (cast : Attribute → AttributeValue → Except SolverError α) :
    Except Session.Error α :=
  (replies wanted >>= cast wanted).mapError .solver

def readFrom? (wanted : Attribute) (cast : Attribute → AttributeValue → Except SolverError α) :
    Except Session.Error (Option α) :=
  match replies wanted with
  | .ok value => ((cast wanted value).mapError .solver).map some
  | .error cause => if cause.isUnsupported then .ok none else .error (.solver cause)

def statusFrom (wanted : Attribute) : Except Session.Error ResultStatus := do
  return (← readFrom? replies wanted Attribute.asResult).getD .noSolution

def rawStatusFrom : Except Session.Error String := do
  return (← readFrom? replies .rawStatusString Attribute.asText).getD ""

def floatFrom (status : ResultStatus) (wanted : Attribute) :
    Except Session.Error (Option Float) :=
  if status.hasValues then readFrom? replies wanted Attribute.asFloat else return none

def summaryFrom : Except Session.Error ResultSummary := do
  let termination ← readFrom replies .terminationStatus Attribute.asTermination
  let primalStatus ← statusFrom replies .primalStatus
  let dualStatus ← statusFrom replies .dualStatus
  let resultCount ← readFrom? replies .resultCount Attribute.asCount
  let objectiveValue ← floatFrom replies primalStatus .objectiveValue
  let dualObjectiveValue ← floatFrom replies dualStatus .dualObjectiveValue
  let rawStatus ← rawStatusFrom replies
  let objectiveBound ← readFrom? replies .objectiveBound Attribute.asFloat
  let solveTime ← readFrom? replies .solveTimeSec Attribute.asFloat
  return {
    termination, rawStatus, primalStatus, dualStatus, objectiveValue, dualObjectiveValue,
    objectiveBound, solveTime
    resultCount := resultCount.getD (if primalStatus.hasValues then 1 else 0) }

def dualFrom (index : ConstraintIndex) :
    Except Session.Error (Option (Except LengthMismatch (ResultValue Float))) := do
  let set ← readFrom replies (.constraintSet index) Attribute.asSet
  return (← readFrom? replies (.constraintDual index) Attribute.asVector).map (decode set)

end From

/-! ## Asking the instance -/

/-- There is no model, the instance is live, and this is in view. -/
structure Shows (view : World → State) (target : Instance) (shown : State)
    (link : Link World Factory Instance) : Prop where
  direct : link.mode = .direct
  live : link.live = some target
  shown : view link.world = shown

section Asking

variable {solver : Solver World Factory Instance} {view : World → State} {target : Instance}
  {shown : State}

theorem comes_interpret {holds : Link World Factory Instance → Prop}
    (reading : Except SolverError α) :
    Comes holds (interpret reading) (reading.mapError .solver) := by
  cases reading with
  | ok value => exact comes_pure value
  | error cause => exact comes_throw (Session.Error.solver cause)

variable {answer : State → Instance → Attribute → Except SolverError AttributeValue}
  (answers : solver.AnswersFrom view answer)
include answers

theorem comes_get (wanted : Attribute) :
    Comes (Shows view target shown : Link World Factory Instance → Prop)
      (call (solver.get target wanted)) ((answer shown target wanted).mapError .solver) := by
  intro link shows
  apply ends_call
  refine (answers shown target wanted link.world shows.shown).mono ?_ ?_
  · rintro value world ⟨answered, still⟩
    rw [answered]
    exact ⟨rfl, shows.direct, shows.live, still⟩
  · rintro cause world ⟨answered, still⟩
    rw [answered]
    exact ⟨rfl, shows.direct, shows.live, still⟩

theorem comes_read (wanted : Attribute)
    (cast : Attribute → AttributeValue → Except SolverError α) :
    Comes (Shows view target shown : Link World Factory Instance → Prop)
      (read solver target wanted cast) (readFrom (answer shown target) wanted cast) := by
  have composed : readFrom (answer shown target) wanted cast =
      (answer shown target wanted).mapError .solver >>= fun value =>
        (cast wanted value).mapError .solver := by
    unfold readFrom
    cases answer shown target wanted <;> rfl
  rw [composed]
  exact comes_bind (comes_get answers wanted) fun value _ => comes_interpret (cast wanted value)

theorem comes_read? (wanted : Attribute)
    (cast : Attribute → AttributeValue → Except SolverError α) :
    Comes (Shows view target shown : Link World Factory Instance → Prop)
      (read? solver target wanted cast) (readFrom? (answer shown target) wanted cast) := by
  intro link shows
  have replied := answers shown target wanted link.world shows.shown
  unfold Ends at replied
  unfold Ends read? readFrom?
  cases reply : solver.get target wanted link.world with
  | ok value world =>
    rw [reply] at replied
    obtain ⟨answered, still⟩ := replied
    rw [answered]
    have read : Comes (Shows view target shown : Link World Factory Instance → Prop)
        (some <$> interpret (cast wanted value)) (((cast wanted value).mapError .solver).map some) :=
      comes_map (comes_interpret _)
    exact read _ ⟨shows.direct, shows.live, still⟩
  | error cause world =>
    rw [reply] at replied
    obtain ⟨answered, still⟩ := replied
    rw [answered]
    dsimp only
    by_cases unsupported : cause.isUnsupported = true
    · rw [if_pos unsupported, if_pos unsupported]
      exact ⟨rfl, shows.direct, shows.live, still⟩
    · rw [if_neg unsupported, if_neg unsupported]
      exact ⟨rfl, shows.direct, shows.live, still⟩

theorem comes_resultStatus (wanted : Attribute) :
    Comes (Shows view target shown : Link World Factory Instance → Prop)
      (resultStatus solver target wanted) (statusFrom (answer shown target) wanted) :=
  comes_bind (comes_read? answers wanted _) fun _ _ => comes_pure _

theorem comes_rawStatus :
    Comes (Shows view target shown : Link World Factory Instance → Prop)
      (rawStatus solver target) (rawStatusFrom (answer shown target)) :=
  comes_bind (comes_read? answers _ _) fun _ _ => comes_pure _

theorem comes_floatOf (status : ResultStatus) (wanted : Attribute) :
    Comes (Shows view target shown : Link World Factory Instance → Prop)
      (floatOf solver target status wanted) (floatFrom (answer shown target) status wanted) := by
  unfold floatOf floatFrom
  cases status.hasValues with
  | false => exact comes_pure none
  | true => exact comes_read? answers wanted _

theorem comes_summary :
    Comes (Shows view target shown : Link World Factory Instance → Prop)
      (summary solver target) (summaryFrom (answer shown target)) := by
  apply comes_bind (comes_read answers _ _)
  intro termination _
  apply comes_bind (comes_resultStatus answers _)
  intro primalStatus _
  apply comes_bind (comes_resultStatus answers _)
  intro dualStatus _
  apply comes_bind (comes_read? answers _ _)
  intro resultCount _
  apply comes_bind (comes_floatOf answers _ _)
  intro objectiveValue _
  apply comes_bind (comes_floatOf answers _ _)
  intro dualObjectiveValue _
  apply comes_bind (comes_rawStatus answers)
  intro rawStatus _
  apply comes_bind (comes_read? answers _ _)
  intro objectiveBound _
  apply comes_bind (comes_read? answers _ _)
  exact fun solveTime _ => comes_pure _

theorem comes_askDual (id : ConstraintId) :
    Comes (Shows view target shown : Link World Factory Instance → Prop)
      (Session.askDual solver id target) (dualFrom (answer shown target) ⟨id.number⟩) :=
  comes_bind (comes_read answers _ _) fun _ _ =>
    comes_bind (comes_read? answers _ _) fun _ _ => comes_pure _

end Asking

end Link

namespace Session

/-! ## Sessions without a model -/

/-- The session is attached to the instance, and this is in view. -/
structure Shows (view : World → State) (target : Instance) (shown : State)
    (session : Session World Factory Instance) : Prop where
  attached : Attached target session
  shown : view session.link.world = shown

section Shows

variable {solver : Solver World Factory Instance} {view : World → State} {target : Instance}
  {shown : State} {session : Session World Factory Instance}

theorem Shows.currentRecord? (shows : Shows view target shown session) :
    session.currentRecord? = none := by
  unfold Session.currentRecord?
  rw [shows.attached.unrecorded]
  rfl

theorem Shows.resultSource? (shows : Shows view target shown session) :
    session.resultSource? = some target :=
  shows.attached.resultSource?

theorem comes_onLink {action : Model Float → Link.Action World Factory Instance α}
    {outcome : Except Error α}
    (comes : ∀ model, Comes (Link.Shows view target shown) (action model) outcome) :
    Comes (Shows view target shown) (onLink action) outcome := by
  intro session shows
  have direct := mode_of_direct shows.attached.direct
  have kept : ∀ link : Link World Factory Instance, Link.Shows view target shown link →
      Shows view target shown { session with link := link } := fun link still =>
    ⟨shows.attached.relink (still.direct.trans direct.symm)
      (still.live.trans shows.attached.live.symm), still.shown⟩
  apply ends_onLink
  refine (comes session.model session.link ⟨direct, shows.attached.live, shows.shown⟩).mono
    ?_ ?_
  · exact fun value link ⟨same, still⟩ => ⟨same, kept link still⟩
  · exact fun cause link ⟨same, still⟩ => ⟨same, kept link still⟩

/-- Where there is no model, the live instance is asked. -/
theorem comes_fromSource {ask : Instance → Link.Action World Factory Instance α}
    {otherwise : Action World Factory Instance α} {outcome : Except Error α}
    (asked : Comes (Link.Shows view target shown) (ask target) outcome) :
    Comes (Shows view target shown) (fromSource ask otherwise) outcome := by
  apply comes_ofState
  intro session shows
  rw [shows.resultSource?]
  exact comes_onLink fun _ => asked

theorem Shows.consults {answer : State → Instance → Attribute → Except SolverError AttributeValue}
    (answers : solver.AnswersFrom view answer) {after : Session World Factory Instance}
    (consults : Consults solver session after) (shows : Shows view target shown session) :
    Shows view target shown after := by
  refine ⟨attached_consults shows.attached consults, ?_⟩
  induction consults with
  | refl => exact shows.shown
  | tail _ glance inductionHypothesis =>
    cases glance with
    | @link other link live glance =>
      cases glance with
      | get wanted => exact (answers shown other wanted).holds_after inductionHypothesis
      | report event => exact inductionHypothesis

end Shows

/-! ## Statuses that may be refused -/

def saysOutcome : Except Error ResultStatus → Bool
  | .ok status => status.hasValues
  | .error _ => false

theorem comes_saysValues {holds : Session World Factory Instance → Prop}
    {status : Action World Factory Instance ResultStatus} {outcome : Except Error ResultStatus}
    (comes : Comes holds status outcome) :
    Comes holds (saysValues status) (.ok (saysOutcome outcome)) := by
  have caught : (.ok (saysOutcome outcome) : Except Error Bool) =
      tryCatch (outcome >>= fun status => .ok status.hasValues) fun _ => .ok false := by
    cases outcome <;> rfl
  rw [caught]
  exact comes_tryCatch (comes_bind comes fun _ _ => comes_pure _) fun _ => comes_pure false

/-! ## What determines results -/

section Kept

variable {before after : Session World Factory Instance}

theorem Current.kept {record : ResultRecord} (current : Current before record)
    (kept : Kept before after) : Current after record :=
  ⟨kept.isCached.trans current.cached, kept.record.trans current.present, by
    rw [kept.model]
    exact current.generation⟩

theorem Unreadable.kept {cause : Error} (unreadable : Unreadable cause before)
    (kept : Kept before after) : Unreadable cause after := by
  refine ⟨kept.isCached.trans unreadable.cached, ?_⟩
  unfold readableRecord
  rw [kept.model, kept.record]
  exact unreadable.refused

end Kept

structure Recalls (record : ResultRecord) (model : Model Float)
    (session : Session World Factory Instance) : Prop where
  current : Current session record
  model : session.model = model

/-- A property of sessions that determines what is read: there is a current record that covers the
model, there is a model without a current record, or there is no model and the answers of the
live instance depend on what is in view. -/
inductive Determines (solver : Solver World Factory Instance) (view : World → State)
    (answer : State → Instance → Attribute → Except SolverError AttributeValue) :
    (Session World Factory Instance → Prop) → Prop where
  | recalls {record : ResultRecord} {model : Model Float} (covers : record.Covers model) :
      Determines solver view answer (Recalls record model)
  | unreadable (cause : Error) : Determines solver view answer (Unreadable cause)
  | shows (answers : solver.AnswersFrom view answer) (target : Instance) (shown : State) :
      Determines solver view answer (Shows view target shown)

section Determines

variable {solver : Solver World Factory Instance} {view : World → State}
  {answer : State → Instance → Attribute → Except SolverError AttributeValue}
  {holds : Session World Factory Instance → Prop} {session : Session World Factory Instance}

/-- Consulting the instance keeps what determines the results. -/
theorem Determines.consults (determines : Determines solver view answer holds)
    {before after : Session World Factory Instance} (consults : Consults solver before after)
    (held : holds before) : holds after := by
  have kept := consults.manages.kept
  cases determines with
  | recalls covers => exact ⟨held.current.kept kept, kept.model.trans held.model⟩
  | unreadable cause => exact held.kept kept
  | shows answers target shown => exact held.consults answers consults

theorem Determines.reads (determines : Determines solver view answer holds) (reads : List ResultRead)
    (held : holds session) : holds (finish solver session (reads.map .read)) :=
  holds_of_reads (fun _ _ consults held => determines.consults consults held) reads held

/-- Every run leads to a session whose results are settled. -/
theorem exists_determines (opened : Opened solver session)
    (answers : session.isCached = false → solver.AnswersFrom view answer)
    (operations : List (Operation Factory)) :
    ∃ holds, Determines solver view answer holds ∧ holds (finish solver session operations) := by
  cases cached : session.isCached with
  | true =>
    have documented : Documented (finish solver session operations) :=
      documented_finish operations (opened.documented cached)
    obtain ⟨record, current⟩ | ⟨cause, unreadable⟩ := current_or_unreadable documented.cached
    · exact ⟨_, .recalls (documented.covers current), current, rfl⟩
    · exact ⟨_, .unreadable cause, unreadable⟩
  | false =>
    obtain ⟨target, attached⟩ := opened.attached cached
    exact ⟨_, .shows (answers cached) target _, attached_finish attached operations, rfl⟩

end Determines

end Session

end ConicModel
