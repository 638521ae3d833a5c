import ConicModel.Proofs.Expr.Evaluation
import ConicModel.Proofs.Session.Action
import ConicModel.Session.Operation

/-!
Contract: reading results does no more than ask the live instance.

Owns:
- `Link.Glance`, the single step of reading, and `Link.Consults`, any number of them;
- the same for sessions, where the instance asked is the live one;
- the fact that every read of a result is a consultation.

Does not own: the answers.
-/

namespace ConicModel

open Relation (ReflTransGen)

variable {World Factory Instance : Type}

namespace Link

/-- One step of reading: an attribute of the instance is asked for, or a report is made. -/
inductive Glance (solver : Solver World Factory Instance) (target : Instance)
    (before : Link World Factory Instance) : Link World Factory Instance → Prop where
  | get (wanted : Attribute) :
      Glance solver target before
        { before with world := stateAfter (solver.get target wanted) before.world }
  | report (event : Event) :
      Glance solver target before { before with events := before.events ++ [event] }

def Consults (solver : Solver World Factory Instance) (target : Instance) :
    Link World Factory Instance → Link World Factory Instance → Prop :=
  ReflTransGen (Glance solver target)

instance (solver : Solver World Factory Instance) (target : Instance) :
    IsPreorder (Link World Factory Instance) (Consults solver target) :=
  inferInstanceAs (IsPreorder _ (ReflTransGen _))

section Consults

variable {solver : Solver World Factory Instance} {target : Instance} {α : Type}

theorem ends_call {reply : Reply World α} {link : Link World Factory Instance}
    {returned : α → Link World Factory Instance → Prop}
    {refused : Session.Error → Link World Factory Instance → Prop}
    (ends : Ends reply link.world (fun value world => returned value { link with world := world })
      fun cause world => refused (.solver cause) { link with world := world }) :
    Ends (call reply) link returned refused := by
  apply ends_within (fun world => { link with world := world }) .solver _ ends
  unfold call
  cases reply link.world <;> rfl

theorem moves_call {related : Link World Factory Instance → Link World Factory Instance → Prop}
    {reply : Reply World α}
    (step : ∀ link, related link { link with world := stateAfter reply link.world }) :
    Moves related (call reply) :=
  fun link => ends_call (ends_stateAfter.mpr (step link))

/-! ## Reads, for any relation that a question respects -/

section Reads

variable {related : Link World Factory Instance → Link World Factory Instance → Prop}
  [IsPreorder (Link World Factory Instance) related]

theorem moves_interpret (reading : Except SolverError α) :
    Moves related (interpret reading : Action World Factory Instance α) := by
  cases reading with
  | ok value => exact moves_pure value
  | error cause => exact moves_throw (Session.Error.solver cause)

section Asked

variable {wanted : Attribute} (asked : ∀ link : Link World Factory Instance,
    related link { link with world := stateAfter (solver.get target wanted) link.world })
include asked

theorem moves_read (cast : Attribute → AttributeValue → Except SolverError α) :
    Moves related (read solver target wanted cast) :=
  moves_bind (moves_call asked) fun _ => moves_interpret _

theorem moves_read? (cast : Attribute → AttributeValue → Except SolverError α) :
    Moves related (read? solver target wanted cast) := by
  intro link
  have replied : Ends (solver.get target wanted) link.world
      (fun _ world => related link { link with world := world })
      fun _ world => related link { link with world := world } :=
    ends_stateAfter.mpr (asked link)
  unfold Ends read? at *
  cases reply : solver.get target wanted link.world with
  | ok value world =>
    rw [reply] at replied
    have moves : Moves related
        (some <$> interpret (cast wanted value) : Action World Factory Instance (Option α)) :=
      moves_map (moves_interpret _)
    exact (moves _).mono (fun _ _ moved => trans_of related replied moved)
      fun _ _ moved => trans_of related replied moved
  | error cause world =>
    rw [reply] at replied
    dsimp only
    by_cases unsupported : cause.isUnsupported = true
    · rw [if_pos unsupported]
      exact replied
    · rw [if_neg unsupported]
      exact replied

theorem moves_resultStatus : Moves related (resultStatus solver target wanted) :=
  moves_bind (moves_read? asked _) fun _ => moves_pure _

theorem moves_floatOf (status : ResultStatus) :
    Moves related (floatOf solver target status wanted) := by
  unfold floatOf
  by_cases values : status.hasValues = true
  · rw [if_pos values]
    exact moves_read? asked _
  · rw [if_neg values]
    exact moves_pure none

end Asked

/-- The facts of a solve are read without a question about an entity. -/
theorem moves_summary
    (asked : ∀ wanted : Attribute, wanted.subject? = none →
      ∀ link : Link World Factory Instance,
        related link { link with world := stateAfter (solver.get target wanted) link.world }) :
    Moves related (summary solver target) := by
  apply moves_bind (moves_read (asked .terminationStatus rfl) _)
  intro termination
  apply moves_bind (moves_resultStatus (asked .primalStatus rfl))
  intro primalStatus
  apply moves_bind (moves_resultStatus (asked .dualStatus rfl))
  intro dualStatus
  apply moves_bind (moves_read? (asked .resultCount rfl) _)
  intro resultCount
  apply moves_bind (moves_floatOf (asked .objectiveValue rfl) _)
  intro objectiveValue
  apply moves_bind (moves_floatOf (asked .dualObjectiveValue rfl) _)
  intro dualObjectiveValue
  apply moves_bind
    (moves_bind (moves_read? (asked .rawStatusString rfl) _) fun _ => moves_pure _)
  intro rawStatus
  apply moves_bind (moves_read? (asked .objectiveBound rfl) _)
  intro objectiveBound
  apply moves_bind (moves_read? (asked .solveTimeSec rfl) _)
  intro solveTime
  exact moves_pure _

end Reads

/-! ## Reads as consultations -/

theorem consults_get (wanted : Attribute) (link : Link World Factory Instance) :
    Consults solver target link
      { link with world := stateAfter (solver.get target wanted) link.world } :=
  .single (.get wanted)

theorem consults_report (event : Event) :
    Moves (Consults solver target) (report event : Action World Factory Instance Unit) :=
  moves_modify fun _ => .single (.report event)

theorem consults_read (wanted : Attribute)
    (cast : Attribute → AttributeValue → Except SolverError α) :
    Moves (Consults solver target) (read solver target wanted cast) :=
  moves_read (consults_get wanted) cast

theorem consults_read? (wanted : Attribute)
    (cast : Attribute → AttributeValue → Except SolverError α) :
    Moves (Consults solver target) (read? solver target wanted cast) :=
  moves_read? (consults_get wanted) cast

theorem consults_resultStatus (wanted : Attribute) :
    Moves (Consults solver target) (resultStatus solver target wanted) :=
  moves_resultStatus (consults_get wanted)

theorem consults_rawStatus : Moves (Consults solver target) (rawStatus solver target) :=
  moves_bind (consults_read? _ _) fun _ => moves_pure _

theorem consults_summary : Moves (Consults solver target) (summary solver target) :=
  moves_summary fun wanted _ => consults_get wanted

theorem consults_constraintPrimal (index : ConstraintIndex) (set : ConstraintSet Float) :
    Moves (Consults solver target) (constraintPrimal solver target index set) := by
  apply moves_bind (consults_read _ _)
  intro values
  split
  · exact moves_pure _
  · exact moves_throw _

theorem consults_constraintDual? (index : ConstraintIndex) (set : ConstraintSet Float) :
    Moves (Consults solver target) (constraintDual? solver target index set) :=
  moves_bind (consults_read? _ _) fun _ => moves_pure _

theorem consults_primals (map : IndexMap) :
    ∀ ids, Moves (Consults solver target) (primals solver target map ids)
  | [] => moves_pure []
  | id :: others => by
    unfold primals
    split
    · exact moves_throw _
    · apply moves_bind (consults_read _ _)
      intro value
      exact moves_bind (consults_primals map others) fun _ => moves_pure _

theorem consults_duals (map : IndexMap) :
    ∀ entries, Moves (Consults solver target) (duals solver target map entries)
  | [] => moves_pure []
  | entry :: others => by
    unfold duals
    split
    · exact moves_throw _
    · apply moves_bind (consults_constraintDual? _ _)
      intro value
      split
      · exact consults_duals map others
      · have rest : ∀ value : Except LengthMismatch (ResultValue Float),
            Moves (Consults solver target) (do
              let values ← duals solver target map others
              return (entry.id, value) :: values) :=
          fun _ => moves_bind (consults_duals map others) fun _ => moves_pure _
        split
        · exact moves_bind (consults_report _) fun _ => rest _
        · exact rest _

theorem consults_collect (model : Model Float) (map : IndexMap) :
    Moves (Consults solver target) (collect solver target model map) := by
  apply moves_bind consults_summary
  intro summary
  have rest : ∀ primals, Moves (Consults solver target) (do
      let duals ← if summary.dualStatus.hasValues then
          duals solver target map model.constraints.entries
        else pure []
      return (⟨model.generation, summary, primals, duals⟩ : ResultRecord)) := by
    intro primals
    dsimp only
    split
    · exact moves_bind (consults_duals map _) fun _ => moves_pure _
    · exact moves_bind (moves_pure []) fun _ => moves_pure _
  dsimp only
  split
  · exact moves_bind (consults_primals map _) rest
  · exact moves_bind (moves_pure []) rest

end Consults

theorem Glance.live_eq {solver : Solver World Factory Instance} {target : Instance}
    {before after : Link World Factory Instance} (glance : Glance solver target before after) :
    after.live = before.live := by
  cases glance <;> rfl

end Link

namespace Session

inductive Glance (solver : Solver World Factory Instance)
    (before : Session World Factory Instance) : Session World Factory Instance → Prop where
  | link {target : Instance} {link : Link World Factory Instance}
      (live : before.link.live = some target)
      (glance : Link.Glance solver target before.link link) :
      Glance solver before { before with link := link }

def Consults (solver : Solver World Factory Instance) :
    Session World Factory Instance → Session World Factory Instance → Prop :=
  ReflTransGen (Glance solver)

instance (solver : Solver World Factory Instance) :
    IsPreorder (Session World Factory Instance) (Consults solver) :=
  inferInstanceAs (IsPreorder _ (ReflTransGen _))

variable {α β : Type}

theorem ends_onLink {action : Model Float → Link.Action World Factory Instance α}
    {session : Session World Factory Instance}
    {returned : α → Session World Factory Instance → Prop}
    {refused : Error → Session World Factory Instance → Prop}
    (ends : Ends (action session.model) session.link
      (fun value link => returned value { session with link := link })
      fun cause link => refused cause { session with link := link }) :
    Ends (onLink action) session returned refused := by
  apply ends_within (fun link => { session with link := link }) id _ ends
  unfold onLink
  cases action session.model session.link <;> rfl

section Consults

variable {solver : Solver World Factory Instance}

theorem consults_of_link {session : Session World Factory Instance} {target : Instance}
    {link : Link World Factory Instance} (live : session.link.live = some target)
    (consults : Link.Consults solver target session.link link) :
    Consults solver session { session with link := link } ∧ link.live = some target := by
  induction consults with
  | refl => exact ⟨.refl, live⟩
  | tail _ glance ih =>
    obtain ⟨earlier, stillLive⟩ := ih
    exact ⟨earlier.tail (.link stillLive glance), glance.live_eq.trans stillLive⟩

theorem consults_onLink {session : Session World Factory Instance} {target : Instance}
    (live : session.link.live = some target)
    {ask : Model Float → Link.Action World Factory Instance α}
    (consults : ∀ model, Moves (Link.Consults solver target) (ask model)) :
    Ends (onLink ask) session (fun _ after => Consults solver session after)
      fun _ after => Consults solver session after := by
  apply ends_onLink
  exact (consults session.model session.link).mono
    (fun _ _ moved => (consults_of_link live moved).1)
    fun _ _ moved => (consults_of_link live moved).1

theorem live_of_resultSource {session : Session World Factory Instance} {target : Instance}
    (source : session.resultSource? = some target) : session.link.live = some target := by
  unfold resultSource? at source
  split at source
  · cases source
  · exact source

theorem moves_ofState
    {related : Session World Factory Instance → Session World Factory Instance → Prop}
    {next : Session World Factory Instance → Action World Factory Instance α}
    (each : ∀ session, Ends (next session) session (fun _ after => related session after)
      fun _ after => related session after) : Moves related (get >>= next) :=
  fun session => ends_bind (ends_get (each session))

theorem consults_fromSource {ask : Instance → Link.Action World Factory Instance α}
    {otherwise : Action World Factory Instance α}
    (asked : ∀ target, Moves (Link.Consults solver target) (ask target))
    (recalled : Moves (Consults solver) otherwise) :
    Moves (Consults solver) (fromSource ask otherwise) := by
  apply moves_ofState
  intro session
  split
  · rename_i target source
    exact consults_onLink (live_of_resultSource source) fun _ => asked target
  · exact recalled session

theorem consults_recallFact (fact : ResultSummary → α) :
    Moves (Consults solver) (recallFact fact : Action World Factory Instance α) := by
  apply moves_ofState
  intro session
  split
  · exact ends_pure .refl
  · exact ends_pure .refl

theorem consults_requireRecord :
    Moves (Consults solver) (requireRecord : Action World Factory Instance ResultRecord) := by
  intro session
  unfold Ends requireRecord
  cases session.readableRecord with
  | ok record => exact .refl
  | error cause => exact .refl

theorem consults_require (missing : Unavailable) (found : Option α) :
    Moves (Consults solver) (require missing found : Action World Factory Instance α) := by
  cases found with
  | none => exact moves_throw _
  | some value => exact moves_pure value

theorem consults_ofExcept (result : Except Error α) :
    Moves (Consults solver) (MonadExcept.ofExcept result : Action World Factory Instance α) := by
  cases result with
  | error cause => exact moves_throw cause
  | ok value => exact moves_pure value

theorem consults_resultSummary : Moves (Consults solver) (resultSummary solver) :=
  consults_fromSource (fun _ => Link.consults_summary) (consults_recallFact id)

theorem consults_primalStatus : Moves (Consults solver) (primalStatus solver) :=
  consults_fromSource (fun _ => Link.consults_resultStatus _) (consults_recallFact _)

theorem consults_dualStatus : Moves (Consults solver) (dualStatus solver) :=
  consults_fromSource (fun _ => Link.consults_resultStatus _) (consults_recallFact _)

theorem consults_saysValues {status : Action World Factory Instance ResultStatus}
    (consults : Moves (Consults solver) status) : Moves (Consults solver) (saysValues status) :=
  moves_tryCatch (moves_bind consults fun _ => moves_pure _) fun _ => moves_pure false

/-- Where there is a model, the record is required first. -/
theorem consults_afterRecord {next : Action World Factory Instance α}
    (rest : Moves (Consults solver) next) : Moves (Consults solver) (do
      if (← get).isCached then discard requireRecord
      next) := by
  apply moves_ofState
  intro session
  split
  · exact moves_bind (moves_map consults_requireRecord) (fun _ => rest) session
  · exact rest session

theorem consults_requirePrimal : Moves (Consults solver) (requirePrimal solver) := by
  apply consults_afterRecord
  apply moves_bind (consults_saysValues consults_primalStatus)
  intro values
  split
  · exact moves_throw _
  · exact moves_pure ()

theorem consults_solveFloat (wanted : Attribute) (fact : ResultSummary → Option Float) :
    Moves (Consults solver) (solveFloat solver wanted fact) :=
  moves_bind
    (consults_fromSource (fun _ => Link.consults_read? _ _)
      (moves_bind consults_requireRecord fun _ => moves_pure _))
    fun _ => consults_require _ _

theorem consults_value (id : VariableId) : Moves (Consults solver) (value solver id) := by
  apply moves_bind consults_requirePrimal
  intro _
  apply consults_fromSource (fun _ => Link.consults_read _ _)
  apply moves_bind consults_requireRecord
  intro record
  split
  · exact moves_pure _
  · exact moves_throw _

theorem consults_constraintValue (id : ConstraintId) :
    Moves (Consults solver) (constraintValue solver id) := by
  apply moves_bind consults_requirePrimal
  intro _
  refine consults_fromSource (fun _ => ?_) ?_
  · exact moves_bind (Link.consults_read _ _) fun _ => Link.consults_constraintPrimal _ _
  · exact moves_bind consults_requireRecord fun _ => moves_bind moves_get fun _ =>
      consults_ofExcept _

theorem consults_askDual (id : ConstraintId) (target : Instance) :
    Moves (Link.Consults solver target) (askDual solver id target) :=
  moves_bind (Link.consults_read _ _) fun _ => Link.consults_constraintDual? _ _

theorem consults_evaluateWith (expr : Expr Float) :
    Moves (Consults solver) (expr.evaluateWith (value solver)) :=
  Expr.evaluateWith_of_reads moves_pure (fun first next => moves_bind first next) consults_value
    expr

theorem consults_resultValueOf (expr : Expr Float) :
    Moves (Consults solver) (resultValueOf solver expr) := by
  apply moves_bind consults_requirePrimal
  intro _
  apply moves_ofState
  intro session
  split
  · exact moves_bind consults_requireRecord (fun _ => consults_ofExcept _) session
  · exact consults_evaluateWith expr session

theorem consults_hasResultDual (entity : EntityRef) :
    Moves (Consults solver) (hasResultDual solver entity) := by
  cases entity with
  | var id => exact moves_pure false
  | con id =>
    apply moves_bind (consults_saysValues consults_dualStatus)
    intro values
    split
    · exact moves_pure false
    · apply moves_ofState
      intro session
      split
      · exact ends_pure .refl
      · apply ends_bind
        apply ends_get
        split
        · exact ends_pure .refl
        · rename_i target source
          apply ends_tryCatch
          apply ends_bind
          refine (consults_onLink (live_of_resultSource source)
            fun _ => consults_askDual id target).mono ?_ ?_
          · exact fun _ _ moved => ends_pure moved
          · exact fun _ _ moved => ends_pure moved

theorem consults_recallDual (id : ConstraintId) :
    Moves (Consults solver) (recallDual id : Action World Factory Instance _) := by
  apply moves_ofState
  intro session
  split
  · exact ends_throw .refl
  · exact moves_bind consults_requireRecord (fun _ => moves_pure _) session

theorem consults_requireDual (id : ConstraintId)
    (found : Option (Except LengthMismatch (ResultValue Float))) :
    Moves (Consults solver) (requireDual id found : Action World Factory Instance _) := by
  unfold requireDual
  split
  · exact moves_pure _
  · exact moves_throw _
  · exact moves_throw _

theorem consults_resultDual (entity : EntityRef) :
    Moves (Consults solver) (resultDual solver entity) := by
  cases entity with
  | var id => exact consults_afterRecord (moves_throw _)
  | con id =>
    apply consults_afterRecord
    apply moves_bind (consults_saysValues consults_dualStatus)
    intro values
    have recalled : Moves (Consults solver) (do
        let found ← fromSource (askDual solver id) (recallDual id)
        requireDual id found : Action World Factory Instance (ResultValue Float)) :=
      moves_bind (consults_fromSource (consults_askDual id) (consults_recallDual id))
        (consults_requireDual id)
    split
    · exact moves_throw _
    · exact recalled

theorem consults_readResult (result : ResultRead) :
    Moves (Consults solver) (readResult solver result) := by
  cases result with
  | summary => exact moves_map consults_resultSummary
  | terminationStatus =>
    exact moves_map (consults_fromSource (fun _ => Link.consults_read _ _) (consults_recallFact _))
  | primalStatus => exact moves_map consults_primalStatus
  | dualStatus => exact moves_map consults_dualStatus
  | rawStatus =>
    exact moves_map (consults_fromSource (fun _ => Link.consults_rawStatus)
      (moves_bind consults_requireRecord fun _ => moves_pure _))
  | resultCount => exact moves_map (moves_bind consults_resultSummary fun _ => moves_pure _)
  | hasValues => exact moves_map (consults_saysValues consults_primalStatus)
  | hasDuals => exact moves_map (consults_saysValues consults_dualStatus)
  | objectiveValue =>
    exact moves_map (moves_bind consults_requirePrimal fun _ => consults_solveFloat _ _)
  | dualObjectiveValue => exact moves_map (consults_solveFloat _ _)
  | objectiveBound => exact moves_map (consults_solveFloat _ _)
  | solveTime => exact moves_map (consults_solveFloat _ _)
  | value id => exact moves_map (consults_value id)
  | valueOfEntity entity =>
    cases entity with
    | var id => exact moves_map (moves_bind (consults_value id) fun _ => moves_pure _)
    | con id => exact moves_map (consults_constraintValue id)
  | valueOfExpr expr => exact moves_map (consults_resultValueOf expr)
  | dual entity => exact moves_map (consults_resultDual entity)
  | hasDual entity => exact moves_map (consults_hasResultDual entity)

end Consults

end Session

end ConicModel
