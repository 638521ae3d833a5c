import ConicModel.Proofs.Session.Asking

/-!
Contract: the facts of a solve are the same whether they are read together or one by one.

Owns:
- `Agrees`, the agreement of a summary with the reads of its facts;
- what each fact is read as, from a current record and from a live instance;
- the agreement in every run, and when the objective value of the dual takes part in it.

Does not own: the values of variables and constraints.

The summary of a live instance has an objective value only where the status says that there are
values.  The objective value is read by itself under the same condition, and that of the dual
under none.
-/

namespace ConicModel

variable {World Factory Instance State : Type}

namespace Link

variable {replies : Attribute → Except SolverError AttributeValue} {facts : ResultSummary}

/-- The facts, each as it is read by itself. -/
structure Reports (replies : Attribute → Except SolverError AttributeValue)
    (facts : ResultSummary) : Prop where
  termination : readFrom replies .terminationStatus Attribute.asTermination = .ok facts.termination
  primalStatus : statusFrom replies .primalStatus = .ok facts.primalStatus
  dualStatus : statusFrom replies .dualStatus = .ok facts.dualStatus
  objectiveValue :
    floatFrom replies facts.primalStatus .objectiveValue = .ok facts.objectiveValue
  dualObjectiveValue :
    floatFrom replies facts.dualStatus .dualObjectiveValue = .ok facts.dualObjectiveValue
  rawStatus : rawStatusFrom replies = .ok facts.rawStatus
  objectiveBound : readFrom? replies .objectiveBound Attribute.asFloat = .ok facts.objectiveBound
  solveTime : readFrom? replies .solveTimeSec Attribute.asFloat = .ok facts.solveTime

theorem reports_of_summaryFrom (read : summaryFrom replies = .ok facts) :
    Reports replies facts := by
  obtain ⟨termination, readTermination, read⟩ := Model.bind_eq_ok.mp read
  obtain ⟨primalStatus, readPrimal, read⟩ := Model.bind_eq_ok.mp read
  obtain ⟨dualStatus, readDual, read⟩ := Model.bind_eq_ok.mp read
  obtain ⟨resultCount, _, read⟩ := Model.bind_eq_ok.mp read
  obtain ⟨objectiveValue, readObjective, read⟩ := Model.bind_eq_ok.mp read
  obtain ⟨dualObjectiveValue, readDualObjective, read⟩ := Model.bind_eq_ok.mp read
  obtain ⟨rawStatus, readRaw, read⟩ := Model.bind_eq_ok.mp read
  obtain ⟨objectiveBound, readBound, read⟩ := Model.bind_eq_ok.mp read
  obtain ⟨solveTime, readTime, read⟩ := Model.bind_eq_ok.mp read
  cases read
  exact ⟨readTermination, readPrimal, readDual, readObjective, readDualObjective, readRaw,
    readBound, readTime⟩

end Link

namespace Session

variable {solver : Solver World Factory Instance} {holds : Session World Factory Instance → Prop}
  {session : Session World Factory Instance}

/-! ## Numbers that may be missing -/

/-- A read comes to the number, or is refused because there is none. -/
def Gives (outcome : Except Error Answer) : Option Float → Prop
  | some value => outcome = .ok (.number value)
  | none => ∃ cause, outcome = .error cause ∧ cause.kind = .precondition

def required (missing : Unavailable) : Option Float → Except Error Float
  | some value => .ok value
  | none => .error (.precondition missing)

theorem comes_require (missing : Unavailable) (found : Option Float) :
    Comes holds (require missing found) (required missing found) := by
  cases found with
  | none => exact comes_throw _
  | some value => exact comes_pure value

theorem gives_required (missing : Unavailable) (found : Option Float) :
    Gives ((required missing found).map .number) found := by
  cases found with
  | none => exact ⟨_, rfl, rfl⟩
  | some value => rfl

/-- A read gives the number that its action requires. -/
theorem gives_of_comes {result : ResultRead} {action : Action World Factory Instance Float}
    {missing : Unavailable} {found : Option Float}
    (performs : perform solver (.read result) = .number <$> action)
    (comes : Comes holds action (required missing found)) (held : holds session) :
    Gives (step solver session (.read result)).outcome found := by
  rw [outcome_of_comes (performs ▸ comes_map comes) held]
  exact gives_required missing found

/-- A number that is read whatever the status is the one that is read only with values, exactly
if there are values or the instance does not know the attribute. -/
theorem gives_ungated_iff {replies : Attribute → Except SolverError AttributeValue}
    {status : ResultStatus} {wanted : Attribute} {found : Option Float}
    (gated : Link.floatFrom replies status wanted = .ok found) :
    Gives ((Link.readFrom? replies wanted Attribute.asFloat >>=
        required (.solveAttribute wanted)).map .number) found ↔
      status.hasValues = true ∨
        ∃ cause, replies wanted = .error cause ∧ cause.isUnsupported = true := by
  unfold Link.floatFrom at gated
  cases values : status.hasValues with
  | true =>
    rw [values, if_pos rfl] at gated
    rw [gated]
    exact iff_of_true (gives_required _ found) (.inl rfl)
  | false =>
    rw [values, if_neg (by decide)] at gated
    cases gated
    unfold Link.readFrom?
    cases reply : replies wanted with
    | ok value =>
      dsimp only
      cases cast : Attribute.asFloat wanted value with
      | ok number => exact iff_of_false nofun nofun
      | error cause => exact iff_of_false nofun nofun
    | error cause =>
      dsimp only
      by_cases unsupported : cause.isUnsupported = true
      · rw [if_pos unsupported]
        exact iff_of_true (gives_required _ none) (.inr ⟨cause, rfl, unsupported⟩)
      · rw [if_neg unsupported]
        refine iff_of_false nofun ?_
        rintro (values | ⟨_, ⟨⟩, unknown⟩)
        · cases values
        · exact unsupported unknown

/-! ## Agreement -/

theorem comes_resultCount {facts : ResultSummary}
    (comes : Comes holds (resultSummary solver) (.ok facts)) :
    Comes holds (resultCount solver) (.ok facts.resultCount) :=
  comes_bind_of_ok comes (comes_pure _)

/-- The summary agrees with the reads of its facts, apart from the objective value of the
dual. -/
structure Agrees (solver : Solver World Factory Instance) (session : Session World Factory Instance)
    (facts : ResultSummary) : Prop where
  termination : (step solver session (.read .terminationStatus)).outcome =
    .ok (.termination facts.termination)
  primalStatus : (step solver session (.read .primalStatus)).outcome =
    .ok (.status facts.primalStatus)
  dualStatus : (step solver session (.read .dualStatus)).outcome = .ok (.status facts.dualStatus)
  rawStatus : (step solver session (.read .rawStatus)).outcome = .ok (.text facts.rawStatus)
  resultCount : (step solver session (.read .resultCount)).outcome =
    .ok (.count facts.resultCount)
  objectiveValue : Gives (step solver session (.read .objectiveValue)).outcome
    facts.objectiveValue
  objectiveBound : Gives (step solver session (.read .objectiveBound)).outcome
    facts.objectiveBound
  solveTime : Gives (step solver session (.read .solveTime)).outcome facts.solveTime

/-! ## With a current record -/

section Recalls

variable {record : ResultRecord} {model : Model Float}

theorem comes_recallFact {α : Type} {ask : Instance → Link.Action World Factory Instance α}
    (fact : ResultSummary → α) :
    Comes (Recalls record model) (fromSource ask (recallFact fact)) (.ok (fact record.summary)) :=
  comes_of_ok fun _ held =>
    (fromSource_of_cached held.current.cached).trans (held.current.recallFact_eq fact)

theorem comes_recallRawStatus :
    Comes (Recalls record model) (rawStatus solver) (.ok record.summary.rawStatus) :=
  comes_of_ok fun _ held =>
    (fromSource_of_cached held.current.cached).trans (bind_of_ok held.current.requireRecord_eq)

theorem comes_recallFloat (wanted : Attribute) (fact : ResultSummary → Option Float) :
    Comes (Recalls record model) (solveFloat solver wanted fact)
      (required (.solveAttribute wanted) (fact record.summary)) :=
  comes_bind_of_ok
    (comes_of_ok fun _ held =>
      (fromSource_of_cached held.current.cached).trans (bind_of_ok held.current.requireRecord_eq))
    (comes_require _ _)

/-- Without primal values there is no objective value in the record either. -/
theorem exists_recallObjective (covers : record.Covers model) :
    ∃ missing, Comes (Recalls record model) (objectiveValue solver)
      (required missing record.summary.objectiveValue) := by
  cases values : record.summary.primalStatus.hasValues with
  | false =>
    refine ⟨.primal, ?_⟩
    rw [covers.objective values]
    exact comes_bind_of_error
      (comes_of_error fun _ held => held.current.requirePrimal_of_noValues values)
  | true =>
    exact ⟨_, comes_bind_of_ok (comes_of_ok fun _ held => held.current.requirePrimal_eq values)
      (comes_recallFloat _ _)⟩

theorem agrees_of_recalls (covers : record.Covers model) (held : Recalls record model session) :
    Agrees solver session record.summary where
  termination := outcome_of_comes (comes_map (comes_recallFact ResultSummary.termination)) held
  primalStatus := outcome_of_comes (comes_map (comes_recallFact ResultSummary.primalStatus)) held
  dualStatus := outcome_of_comes (comes_map (comes_recallFact ResultSummary.dualStatus)) held
  rawStatus := outcome_of_comes (comes_map comes_recallRawStatus) held
  resultCount := outcome_of_comes (comes_map (comes_resultCount (comes_recallFact id))) held
  objectiveValue := by
    obtain ⟨missing, comes⟩ : ∃ missing, Comes (Recalls record model) (objectiveValue solver)
        (required missing record.summary.objectiveValue) := exists_recallObjective covers
    exact gives_of_comes rfl comes held
  objectiveBound := gives_of_comes rfl (comes_recallFloat _ _) held
  solveTime := gives_of_comes rfl (comes_recallFloat _ _) held

end Recalls

/-! ## Without a model -/

section Shows

variable {view : World → State} {target : Instance} {shown : State}
  {answer : State → Instance → Attribute → Except SolverError AttributeValue}
  (answers : solver.AnswersFrom view answer)
include answers

omit answers in
/-- A read that asks the live instance comes to what the instance reports. -/
theorem outcome_of_asked {α : Type} {result : ResultRead}
    {ask : Instance → Link.Action World Factory Instance α}
    {otherwise : Action World Factory Instance α} {wrap : α → Answer} {outcome : Except Error α}
    {found : α} (performs : perform solver (.read result) = wrap <$> fromSource ask otherwise)
    (asked : Comes (Link.Shows view target shown) (ask target) outcome)
    (reported : outcome = .ok found) (held : Shows view target shown session) :
    (step solver session (.read result)).outcome = .ok (wrap found) := by
  rw [reported] at asked
  exact outcome_of_comes (performs ▸ comes_map (comes_fromSource asked)) held

theorem comes_askFloat (wanted : Attribute) (fact : ResultSummary → Option Float) :
    Comes (Shows view target shown : Session World Factory Instance → Prop)
      (solveFloat solver wanted fact)
      (Link.readFrom? (answer shown target) wanted Attribute.asFloat >>=
        required (.solveAttribute wanted)) :=
  comes_bind (comes_fromSource (Link.comes_read? answers wanted _)) fun _ _ => comes_require _ _

theorem comes_askedFloat {wanted : Attribute} {found : Option Float}
    (reported : Link.readFrom? (answer shown target) wanted Attribute.asFloat = .ok found)
    (fact : ResultSummary → Option Float) :
    Comes (Shows view target shown : Session World Factory Instance → Prop)
      (solveFloat solver wanted fact) (required (.solveAttribute wanted) found) := by
  have asked : Comes (Shows view target shown) (solveFloat solver wanted fact) _ :=
    comes_askFloat answers wanted fact
  rwa [reported] at asked

theorem comes_requirePrimal :
    Comes (Shows view target shown : Session World Factory Instance → Prop)
      (requirePrimal solver)
      (if saysOutcome (Link.statusFrom (answer shown target) .primalStatus) then .ok ()
        else .error (.precondition .primal)) := by
  apply comes_ofState
  intro session shows
  rw [shows.attached.direct, if_neg (by decide)]
  refine comes_bind_of_ok
    (comes_saysValues (comes_fromSource (Link.comes_resultStatus answers _))) ?_
  cases saysOutcome (Link.statusFrom (answer shown target) .primalStatus) with
  | false => exact comes_throw _
  | true => exact comes_pure ()

theorem comes_askSummary :
    Comes (Shows view target shown : Session World Factory Instance → Prop)
      (resultSummary solver) (Link.summaryFrom (answer shown target)) :=
  comes_fromSource (Link.comes_summary answers)

/-- A summary that was read is the one that the instance reports. -/
theorem summaryFrom_of_shows {facts : ResultSummary} (held : Shows view target shown session)
    (summarized : (step solver session (.read .summary)).outcome = .ok (.summary facts)) :
    Link.summaryFrom (answer shown target) = .ok facts := by
  rw [outcome_of_comes (comes_map (comes_askSummary answers)) held] at summarized
  cases read : Link.summaryFrom (answer shown target) with
  | error cause =>
    rw [read] at summarized
    cases summarized
  | ok found =>
    rw [read] at summarized
    cases summarized
    rfl

/-- The objective value is read under the condition under which the summary has it. -/
theorem exists_askObjective {facts : ResultSummary}
    (reports : Link.Reports (answer shown target) facts) :
    ∃ missing, Comes (Shows view target shown : Session World Factory Instance → Prop)
      (objectiveValue solver) (required missing facts.objectiveValue) := by
  have stated : saysOutcome (Link.statusFrom (answer shown target) .primalStatus) =
      facts.primalStatus.hasValues := by
    rw [reports.primalStatus]
    rfl
  have permitted : Comes (Shows view target shown : Session World Factory Instance → Prop)
      (requirePrimal solver) _ := comes_requirePrimal answers
  have read := reports.objectiveValue
  unfold Link.floatFrom at read
  rw [stated] at permitted
  cases values : facts.primalStatus.hasValues with
  | false =>
    rw [values, if_neg (by decide)] at permitted read
    rw [← Except.ok.inj read]
    exact ⟨.primal, comes_bind_of_error permitted⟩
  | true =>
    rw [values, if_pos rfl] at permitted read
    exact ⟨_, comes_bind_of_ok permitted (comes_askedFloat answers read _)⟩

theorem agrees_of_shows {facts : ResultSummary}
    (read : Link.summaryFrom (answer shown target) = .ok facts)
    (held : Shows view target shown session) : Agrees solver session facts := by
  have reports := Link.reports_of_summaryFrom read
  have summary : Comes (Shows view target shown) (resultSummary solver) _ :=
    comes_askSummary answers
  rw [read] at summary
  obtain ⟨missing, objective⟩ := exists_askObjective answers reports
  exact
    { termination :=
        outcome_of_asked rfl (Link.comes_read answers _ _) reports.termination held
      primalStatus :=
        outcome_of_asked rfl (Link.comes_resultStatus answers _) reports.primalStatus held
      dualStatus :=
        outcome_of_asked rfl (Link.comes_resultStatus answers _) reports.dualStatus held
      rawStatus := outcome_of_asked rfl (Link.comes_rawStatus answers) reports.rawStatus held
      resultCount := outcome_of_comes (comes_map (comes_resultCount summary)) held
      objectiveValue := gives_of_comes rfl objective held
      objectiveBound :=
        gives_of_comes rfl (comes_askedFloat answers reports.objectiveBound _) held
      solveTime := gives_of_comes rfl (comes_askedFloat answers reports.solveTime _) held }

end Shows

/-! ## In every run -/

section Runs

variable {view : World → State} {answer : State → Instance → Attribute →
  Except SolverError AttributeValue}

def Lacks (view : World → State)
    (answer : State → Instance → Attribute → Except SolverError AttributeValue)
    (session : Session World Factory Instance) (wanted : Attribute) : Prop :=
  ∃ target cause, session.link.live = some target ∧
    answer (view session.link.world) target wanted = .error cause ∧ cause.isUnsupported = true

theorem Shows.lacks_iff {target : Instance} {shown : State}
    (shows : Shows view target shown session) {wanted : Attribute} :
    Lacks view answer session wanted ↔
      ∃ cause, answer shown target wanted = .error cause ∧ cause.isUnsupported = true := by
  constructor
  · rintro ⟨other, cause, live, reply, unknown⟩
    cases shows.attached.live.symm.trans live
    rw [shows.shown] at reply
    exact ⟨cause, reply, unknown⟩
  · rintro ⟨cause, reply, unknown⟩
    refine ⟨target, cause, shows.attached.live, ?_, unknown⟩
    rw [shows.shown]
    exact reply

/-- If the results after a run can be summarized, and a model has a current record, each fact of
the summary is what its own read comes to, whatever is read in between.  For the objective value
of the dual this holds exactly if there is a model, or the summary has dual values, or the live
instance does not know it. -/
theorem summary_agrees (opened : Opened solver session)
    (answers : session.isCached = false → solver.AnswersFrom view answer)
    (operations : List (Operation Factory)) (reads : List ResultRead) {facts : ResultSummary}
    (recorded : (finish solver session operations).isCached = true →
      ∃ record, Current (finish solver session operations) record)
    (summarized : (step solver (finish solver session operations) (.read .summary)).outcome =
      .ok (.summary facts)) :
    let now := finish solver (finish solver session operations) (reads.map .read)
    Agrees solver now facts ∧
      (Gives (step solver now (.read .dualObjectiveValue)).outcome facts.dualObjectiveValue ↔
        now.isCached = true ∨ facts.dualStatus.hasValues = true ∨
          Lacks view answer now .dualObjectiveValue) := by
  intro now
  obtain ⟨holds, determines, held⟩ := exists_determines opened answers operations
  have heldNow : holds now := determines.reads reads held
  cases determines with
  | recalls covers =>
    rw [outcome_of_comes (comes_map (comes_recallFact id)) held] at summarized
    cases summarized
    exact ⟨agrees_of_recalls covers heldNow, iff_of_true
      (gives_of_comes rfl (comes_recallFloat _ ResultSummary.dualObjectiveValue) heldNow)
      (.inl heldNow.current.cached)⟩
  | unreadable cause =>
    obtain ⟨record, current⟩ := recorded held.cached
    have impossible := current.currentRecord?_eq.symm.trans held.currentRecord?
    cases impossible
  | shows answers target shown =>
    have read := summaryFrom_of_shows answers held summarized
    have reports := Link.reports_of_summaryFrom read
    refine ⟨agrees_of_shows answers read heldNow, ?_⟩
    have ungated : Comes (Shows view target shown : Session World Factory Instance → Prop)
        (dualObjectiveValue solver) _ :=
      comes_askFloat answers .dualObjectiveValue ResultSummary.dualObjectiveValue
    rw [outcome_of_comes (comes_map ungated) heldNow,
      gives_ungated_iff reports.dualObjectiveValue, heldNow.lacks_iff]
    simp only [heldNow.attached.direct, Bool.false_eq_true, false_or]

end Runs

/-! ## The objective value of the dual -/

/-- A script that reports an objective value of the dual next to any dual status. -/
def dualScript (status : ResultStatus) : Scripted.Script where
  gets := [("TerminationStatus", some (.ok (.termination .optimal))),
    ("DualStatus", some (.ok (.result status))),
    ("DualObjectiveValue", some (.ok (.float 5)))]

def dualSession (status : ResultStatus) : Session Scripted.World String Scripted.Instance :=
  stateAfter (start Scripted.solver)
    (idle { mode := .direct, factory := some "a" } { scripts := [("a", dualScript status)] })

theorem opened_dualSession (status : ResultStatus) :
    Opened Scripted.solver (dualSession status) :=
  .start { mode := .direct, factory := some "a" } { scripts := [("a", dualScript status)] }
    .fresh rfl

/-- With dual values, the objective value of the dual takes part in the agreement. -/
theorem summary_agrees_dualSession :
    let session := dualSession .feasiblePoint
    (Opened Scripted.solver session ∧ Scripted.solver.AnswersFrom id Scripted.solver.replyIn) ∧
      ∃ facts, (step Scripted.solver session (.read .summary)).outcome = .ok (.summary facts) ∧
        Agrees Scripted.solver session facts ∧
        Gives (step Scripted.solver session (.read .dualObjectiveValue)).outcome
          facts.dualObjectiveValue := by
  intro session
  have answers := Solver.answersFrom_replyIn Scripted.stateAfter_get
  refine ⟨⟨opened_dualSession _, answers⟩, _, rfl, ?_⟩
  obtain ⟨agrees, dual⟩ := summary_agrees (opened_dualSession .feasiblePoint) (fun _ => answers)
    [] [] (fun cached => Bool.noConfusion cached) rfl
  exact ⟨agrees, dual.mpr (.inr (.inl rfl))⟩

/-- Without dual values, the summary has no objective value of the dual, and it is read all the
same. -/
theorem dualObjective_without_duals :
    let session := dualSession .noSolution
    (Opened Scripted.solver session ∧ Scripted.solver.AnswersFrom id Scripted.solver.replyIn) ∧
      ∃ facts, (step Scripted.solver session (.read .summary)).outcome = .ok (.summary facts) ∧
        facts.dualObjectiveValue = none ∧
        (step Scripted.solver session (.read .dualObjectiveValue)).outcome = .ok (.number 5) :=
  ⟨⟨opened_dualSession _, Solver.answersFrom_replyIn Scripted.stateAfter_get⟩, _, rfl, rfl, rfl⟩

end Session

end ConicModel
