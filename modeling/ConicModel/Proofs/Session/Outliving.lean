import ConicModel.Proofs.Session.Machine
import ConicModel.Proofs.Session.Misplacement
import ConicModel.Proofs.Session.Transport
import ConicModel.Proofs.Session.Values

/-!
Contract: what a session with a model tells of a solve once the instance that solved is gone.

Owns:
- `Released`, a session whose live instance is not the one that solved last;
- `Silent`, a session that tells nothing of a solve, and `Recounts`, one that tells all of it;
- `Orphaned`, a run that lost its solver in a copy that was refused;
- the fact that a released session is silent unless its run is orphaned, and that after an
  orphaned run the record is read although its instance is closed.

Does not own: which calls close an instance.

Solving and replacing the solver forget the record before they do anything else.  Copying keeps
it, as the model stays the same, also where the copy is refused and the instance is closed.
-/

namespace ConicModel

variable {World Factory Instance : Type}

namespace Transcript

variable {before after : List (JournalEntry Factory)}

def lastSolver? (entries : List (JournalEntry Factory)) : Option Nat :=
  ((entries.filter fun entry => entry.call.isSolve).map JournalEntry.number).getLast?

theorem lastSolver?_optimize (entries : List (JournalEntry Factory)) (number : Nat)
    (factory : Factory) (reply : Except SolverError Unit) :
    lastSolver? (entries ++ [⟨number, factory, .optimize reply⟩]) = some number := by
  simp [lastSolver?, Call.isSolve]

theorem lastSolver?_of_quiet (quiet : Quiet before after) :
    lastSolver? after = lastSolver? before := by
  obtain ⟨added, rfl, silent⟩ := quiet
  have unsolved : added.filter (fun entry => entry.call.isSolve) = [] := by
    rw [List.filter_eq_nil_iff]
    intro entry member
    rw [(silent entry member).1]
    decide
  unfold lastSolver?
  rw [List.filter_append, unsolved, List.append_nil]

theorem Closed.of_quiet {number : Nat} (closed : Closed before number)
    (quiet : Quiet before after) : Closed after number := by
  obtain ⟨added, rfl, _⟩ := quiet
  unfold Closed
  rw [callsOf_append]
  exact List.mem_append_left _ closed

/-- An instance that was open and is no longer was closed. -/
theorem Closed.of_unclosed {number : Nat} (opened : Unclosed before number)
    (quiet : Quiet before after) (shut : ¬ Unclosed after number) : Closed after number := by
  obtain ⟨added, rfl, _⟩ := quiet
  have created : Created (before ++ added) number := by
    unfold Created
    rw [callsOf_append]
    exact List.mem_append_left _ opened.1
  by_contra unclosed
  exact shut ⟨created, unclosed⟩

end Transcript

theorem Link.live_of_sync {solver : Solver World Factory Instance} {model : Model Float}
    {link : Link.Recorded World Factory Instance} (cached : link.mode ≠ .direct) :
    Ends (Link.sync solver.recorded model) link (fun _ after => after.live = link.live)
      fun _ _ => True := by
  apply Link.ends_cached cached
  apply ends_bind
  apply Link.ends_takeLive
  split
  · exact ends_throw trivial
  · rename_i target held
    apply ends_bind
    refine (blames_any _ _).mono ?_ fun _ _ _ => trivial
    intro map copied _
    apply ends_bind
    apply ends_modify
    apply ends_modify
    exact held.symm

namespace Session

open Transcript

section Instances

variable {session : Recorded World Factory Instance}

def Released (session : Recorded World Factory Instance) : Prop :=
  session.state = .empty ∨ ∃ target, session.link.live = some target ∧
    lastSolver? session.entries ≠ some target.number

structure Retains (session : Recorded World Factory Instance) : Prop where
  synced : session.state = .synced
  held : ∃ target, session.link.live = some target ∧
    lastSolver? session.entries = some target.number

def Bereft (session : Recorded World Factory Instance) : Prop :=
  ∃ number, lastSolver? session.entries = some number ∧ Closed session.entries number

theorem Retains.not_released (retains : Retains session) : ¬ Released session := by
  obtain ⟨synced, target, live, solved⟩ := retains
  rintro (empty | ⟨other, otherLive, unsolved⟩)
  · rw [synced] at empty
    cases empty
  · cases live.symm.trans otherLive
    exact unsolved solved

theorem Bereft.released {configuration : Configuration Factory}
    (lawful : Lawful configuration session) (bereft : Bereft session) : Released session := by
  obtain ⟨number, solved, closed⟩ := bereft
  cases live : session.link.live with
  | none => exact .inl (state_eq_empty_iff.mpr live)
  | some target =>
    refine .inr ⟨target, live, fun same => ?_⟩
    obtain rfl : number = target.number := Option.some.inj (solved.symm.trans same)
    exact (lawful.unclosed_iff.mpr ⟨target, live, rfl⟩).2 closed

theorem Bereft.of_quiet {after : Recorded World Factory Instance} (bereft : Bereft session)
    (quiet : Quiet session.entries after.entries) : Bereft after := by
  obtain ⟨number, solved, closed⟩ := bereft
  exact ⟨number, (lastSolver?_of_quiet quiet).trans solved, closed.of_quiet quiet⟩

theorem Retains.of_quiet {after : Recorded World Factory Instance} (retains : Retains session)
    (quiet : Quiet session.entries after.entries) (live : after.link.live = session.link.live)
    (state : after.state = session.state) : Retains after := by
  obtain ⟨synced, target, held, solved⟩ := retains
  exact ⟨state.trans synced, target, live.trans held, (lastSolver?_of_quiet quiet).trans solved⟩

end Instances

/-! ## Solving -/

section Solving

variable {solver : Solver World Factory Instance} {session : Recorded World Factory Instance}

theorem Manages.quiet {after : Recorded World Factory Instance}
    (manages : Manages solver.recorded session after) : Quiet session.entries after.entries := by
  obtain ⟨link, rfl, moved⟩ := manages
  exact moved.quiet

/-- After a solve the instance that solved is still there, and synced. -/
theorem retains_optimize (sound : session.Sound) (cached : session.isCached = true) :
    Ends (optimize solver.recorded) session (fun _ after => Retains after) fun _ _ => True := by
  refine ends_optimize_of_phases sound cached fun prepared soundPrepared synced managed => ?_
  obtain ⟨target, live, _⟩ := soundPrepared.serves (managed.kept.isCached.trans cached) synced
  refine ((ends_runSolver live).and (handles_runSolver prepared)).mono ?_ fun _ _ _ => trivial
  rintro _ ran ⟨⟨world, noted⟩, handled⟩
  have solved : lastSolver? ran.entries = some target.number := by
    rw [noted]
    exact lastSolver?_optimize prepared.entries target.number target.factory _
  have retains : Retains ran :=
    ⟨handled.state.trans synced, target, handled.link.live.trans live, solved⟩
  refine ((handles_collect ran).and (manages_collect ran)).mono ?_ fun _ _ _ => trivial
  rintro record collected ⟨handled, managed⟩ events
  have kept : Retains collected :=
    retains.of_quiet managed.quiet handled.link.live handled.state
  exact ⟨kept.synced, kept.held⟩

theorem retains_optimizeWith (sound : session.Sound) (cached : session.isCached = true)
    (factory : Factory) :
    Ends (optimizeWith solver.recorded factory) session (fun _ after => Retains after)
      fun _ _ => True :=
  ends_optimizeWith_of_optimize sound cached factory fun _ soundReady cachedReady _ =>
    retains_optimize soundReady cachedReady

theorem retains_step (sound : session.Sound) (cached : session.isCached = true)
    {operation : Operation Factory}
    (succeeded : (step solver.recorded session operation).Succeeded) :
    Retains (step solver.recorded session operation).after := by
  have solved : Ends (perform solver.recorded operation) session (fun _ after => Retains after)
      fun _ _ => True := by
    obtain ⟨solves, _⟩ := succeeded
    cases operation with
    | optimize => exact ends_done (retains_optimize sound cached)
    | optimizeWith factory => exact ends_done (retains_optimizeWith sound cached factory)
    | _ => cases solves
  obtain ⟨_, answer, done⟩ := succeeded
  refine Step.of_ends (fun outcome after => outcome = .ok answer → Retains after) ?_ done
  exact solved.mono (fun _ _ retains _ => retains) fun _ _ _ impossible => nomatch impossible

end Solving

/-! ## After a solve -/

def Step.IsRefusedCopy (step : Step World Factory Instance) : Prop :=
  step.operation = .sync ∧ ∃ cause, step.outcome = .error cause

section Leaving

theorem record_of_leaves {solver : Solver World Factory Instance}
    {session : Session World Factory Instance} (cached : session.isCached = true)
    {operation : Operation Factory} (leaves : (step solver session operation).LeavesResults) :
    (step solver session operation).after.record = session.record := by
  cases solves : operation.isSolve with
  | false => exact (regular_step solver cached operation).record_of_quiet leaves.1 solves
  | true => rw [after_of_misplaced cached (leaves.2 solves)]

/-- What every step that leaves results keeps is kept by a run of such steps. -/
theorem holds_of_leaves {solver : Solver World Factory Instance}
    {holds : Session World Factory Instance → Prop}
    (keeps : ∀ {session operation}, session.isCached = true →
      (step solver session operation).LeavesResults → holds session →
      holds (step solver session operation).after)
    {session : Session World Factory Instance} (cached : session.isCached = true)
    {operations : List (Operation Factory)}
    (leave : ∀ step ∈ history solver session operations, step.LeavesResults)
    (held : holds session) : holds (finish solver session operations) := by
  induction operations generalizing session with
  | nil => exact held
  | cons operation others inductionHypothesis =>
    obtain ⟨leaves, rest⟩ := List.forall_mem_cons.mp leave
    exact inductionHypothesis ((isCached_step operation).trans cached) rest
      (keeps cached leaves held)

theorem grows_of_run {solver : Solver World Factory Instance}
    {session : Session World Factory Instance} (cached : session.isCached = true)
    (operations : List (Operation Factory)) :
    session.model.generation ≤ (finish solver session operations).model.generation := by
  induction operations generalizing session with
  | nil => exact Nat.le_refl _
  | cons operation others inductionHypothesis =>
    exact Nat.le_trans (regular_step solver cached operation).model.grows
      (inductionHypothesis ((isCached_step operation).trans cached))

variable {solver : Solver World Factory Instance} {session : Recorded World Factory Instance}
  {operation : Operation Factory}

theorem edited_step (cached : session.isCached = true) (change : Model.Edit Float) :
    Edited session (step solver.recorded session (.edit change)).after := by
  apply Step.of_ends fun _ after => Edited session after
  apply ends_bind
  unfold Ends
  rw [edit_of_cached cached]
  refine (edited_editModel change session).mono ?_ fun _ _ edited => edited
  intro created after edited
  cases created <;> exact edited

section Copying

variable {configuration : Configuration Factory} (lawful : Lawful configuration session)
  (cached : session.isCached = true) (retains : Retains session)
include lawful cached retains

/-- A copy into the instance that solved leaves it synced, or closes it. -/
theorem ends_sync_of_retains :
    Ends (sync solver.recorded) session (fun _ after => Retains after)
      fun _ after => Bereft after := by
  have copied : Ends (sync solver.recorded) session
      (fun _ after => after.link.live = session.link.live) fun _ _ => True :=
    ends_onLink (Link.live_of_sync (not_direct_of_cached cached))
  have sound : Ends (sync solver.recorded) session (fun _ after => after.Sound)
      fun _ after => after.Sound := keepsSound_sync lawful.sound
  refine (((ends_sync cached).and copied).and
    (sound.and (manages_onLink Link.manages_sync session))).mono ?_ ?_
  · rintro _ after ⟨⟨⟨synced, _⟩, live⟩, _, managed⟩
    exact retains.of_quiet managed.quiet live (synced.trans retains.synced.symm)
  · rintro _ after ⟨⟨⟨empty, _⟩, _⟩, soundAfter, managed⟩
    obtain ⟨_, target, live, solved⟩ := retains
    have quiet : Quiet session.entries after.entries := managed.quiet
    have opened : Unclosed session.entries target.number :=
      lawful.unclosed_iff.mpr ⟨target, live, rfl⟩
    refine ⟨target.number, (lastSolver?_of_quiet quiet).trans solved, .of_unclosed opened quiet ?_⟩
    intro still
    obtain ⟨other, otherLive, _⟩ :=
      (lawful.of_steady managed.kept.link soundAfter).unclosed_iff.mp still
    cases (state_eq_empty_iff.mp empty).symm.trans otherLive

theorem retains_of_copy (copied : ¬ (step solver.recorded session .sync).IsRefusedCopy) :
    Retains (step solver.recorded session .sync).after := by
  refine Step.of_ends (fun outcome after => (∀ cause, outcome ≠ .error cause) → Retains after) ?_
    fun cause failed => copied ⟨rfl, cause, failed⟩
  exact (ends_done (ends_sync_of_retains lawful cached retains)).mono
    (fun _ _ retains _ => retains) fun cause _ _ made => absurd rfl (made cause)

theorem bereft_of_refusedCopy (refused : (step solver.recorded session operation).IsRefusedCopy) :
    Bereft (step solver.recorded session operation).after := by
  obtain ⟨rfl, cause, failed⟩ := refused
  refine Step.of_ends (fun outcome after => outcome = .error cause → Bereft after) ?_ failed
  exact (ends_done (ends_sync_of_retains lawful cached retains)).mono
    (fun _ _ _ impossible => nomatch impossible) fun _ _ bereft _ => bereft

end Copying

variable (cached : session.isCached = true)
  (leaves : (step solver.recorded session operation).LeavesResults)
include cached leaves

theorem quiet_of_leaves :
    Quiet session.entries (step solver.recorded session operation).after.entries := by
  obtain ⟨stays, unsolved⟩ := leaves
  have misplaced : operation.isSolve = true →
      Quiet session.entries (step solver.recorded session operation).after.entries := by
    intro solves
    rw [after_of_misplaced cached (unsolved solves)]
    exact .refl _
  rcases operation.kinds with ⟨change, rfl⟩ | plain | lifecycle | rfl | ⟨factory, rfl⟩
  · have edited : Edited session (step solver.recorded session (.edit change)).after :=
      edited_step cached change
    obtain ⟨events, same⟩ := edited.link
    unfold entries
    rw [same]
    exact .refl _
  · exact ((manages_perform plain).stateAfter session).quiet
  · cases lifecycle.symm.trans stays
  · exact misplaced rfl
  · exact misplaced rfl

/-- As long as the model stays in its generation, the instance that solved stays, and stays
synced, unless a copy is refused. -/
theorem retains_of_leaves {configuration : Configuration Factory}
    (lawful : Lawful configuration session) (retains : Retains session)
    (unmoved : (step solver.recorded session operation).after.model.generation =
      session.model.generation)
    (copied : ¬ (step solver.recorded session operation).IsRefusedCopy) :
    Retains (step solver.recorded session operation).after := by
  have quiet := quiet_of_leaves cached leaves
  have handled : Handles session (step solver.recorded session operation).after →
      Retains (step solver.recorded session operation).after :=
    fun handles => retains.of_quiet quiet handles.link.live handles.state
  have misplaced : operation.isSolve = true →
      Retains (step solver.recorded session operation).after := by
    intro solves
    rw [after_of_misplaced cached (leaves.2 solves)]
    exact retains
  cases operation with
  | edit change =>
    have edited : Edited session (step solver.recorded session (.edit change)).after :=
      edited_step cached change
    obtain ⟨events, same⟩ := edited.link
    refine retains.of_quiet quiet (by rw [same]) ?_
    unfold state Link.state IndexMap.isCurrent
    rw [same, unmoved]
  | ask question => exact handled ((handles_ask _ _).stateAfter session)
  | read result => exact handled ((consults_readResult result).stateAfter session).handles
  | sync => exact retains_of_copy lawful cached retains copied
  | backendIndex entity =>
    rw [(step_backendIndex retains.synced entity).2]
    exact retains
  | entityOf index =>
    rw [(step_entityOf retains.synced index).2]
    exact retains
  | optimize | optimizeWith => exact misplaced rfl
  | _ => cases leaves.1

omit cached leaves

/-- After a solve and steps that leave results, the instance that solved is there if no copy was
refused, and closed otherwise, as long as the model stays in its generation. -/
theorem retains_or_bereft {configuration : Configuration Factory}
    (model : configuration.mode ≠ .direct) (lawful : Lawful configuration session)
    (retains : Retains session) {operations : List (Operation Factory)}
    (leave : ∀ step ∈ history solver.recorded session operations, step.LeavesResults)
    (unmoved : (finish solver.recorded session operations).model.generation =
      session.model.generation) :
    ((∃ copy ∈ history solver.recorded session operations, copy.IsRefusedCopy) →
      Bereft (finish solver.recorded session operations)) ∧
    ((∀ copy ∈ history solver.recorded session operations, ¬ copy.IsRefusedCopy) →
      Retains (finish solver.recorded session operations)) := by
  induction operations generalizing session with
  | nil => exact ⟨fun ⟨_, member, _⟩ => (nomatch member), fun _ => retains⟩
  | cons operation others inductionHypothesis =>
    have cached := lawful.isCached model
    have cachedNext : (step solver.recorded session operation).after.isCached = true :=
      (isCached_step operation).trans cached
    obtain ⟨leaves, rest⟩ := List.forall_mem_cons.mp leave
    by_cases refused : (step solver.recorded session operation).IsRefusedCopy
    · -- A closed instance stays closed, and no other one is asked to solve.
      have bereft : Bereft (finish solver.recorded session (operation :: others)) :=
        holds_of_leaves
          (fun cached leaves bereft => bereft.of_quiet (quiet_of_leaves cached leaves)) cachedNext
          rest (bereft_of_refusedCopy lawful cached retains refused)
      exact ⟨fun _ => bereft, fun none => absurd refused (none _ List.mem_cons_self)⟩
    · -- Generations only grow, so none of the steps has changed it.
      have below := (regular_step solver.recorded cached operation).model.grows
      have above : (step solver.recorded session operation).after.model.generation ≤
          (finish solver.recorded session (operation :: others)).model.generation :=
        grows_of_run cachedNext others
      have first : (step solver.recorded session operation).after.model.generation =
          session.model.generation := Nat.le_antisymm (unmoved ▸ above) below
      have kept := retains_of_leaves cached leaves lawful retains first refused
      obtain ⟨bereft, retained⟩ := inductionHypothesis (lawful_step lawful operation) kept rest
        (unmoved.trans first.symm)
      refine ⟨?_, fun none => retained (List.forall_mem_cons.mp none).2⟩
      rintro ⟨copy, member, isRefused⟩
      rcases List.mem_cons.mp member with rfl | later
      · exact absurd isRefused refused
      · exact bereft ⟨copy, later, isRefused⟩

end Leaving

/-! ## Telling -/

section Telling

variable {solver : Solver World Factory Instance} {session : Session World Factory Instance}

structure Silent (solver : Solver World Factory Instance)
    (session : Session World Factory Instance) : Prop where
  refused : ∀ result : ResultRead, result.needsRecord = true →
    ∃ cause, Answers solver session result (.error cause)
  noValues : Answers solver session .hasValues (.ok (.flag false))
  noDuals : Answers solver session .hasDuals (.ok (.flag false))

structure Recounts (solver : Solver World Factory Instance)
    (session : Session World Factory Instance) (record : ResultRecord) : Prop where
  current : Current session record
  rawStatus : Answers solver session .rawStatus (.ok (.text record.summary.rawStatus))
  hasValues : Answers solver session .hasValues
    (.ok (.flag record.summary.primalStatus.hasValues))
  hasDuals : Answers solver session .hasDuals (.ok (.flag record.summary.dualStatus.hasValues))
  values : record.summary.primalStatus.hasValues = true →
    ReadsValues solver session record.primal?

theorem Unreadable.silent {cause : Error} (unreadable : Unreadable cause session) :
    Silent solver session := by
  have cached := unreadable.cached
  have primal : primalStatus solver session = .ok .noSolution session :=
    (fromSource_of_cached cached).trans (recallFact_of_none unreadable.currentRecord? _)
  have dual : dualStatus solver session = .ok .noSolution session :=
    (fromSource_of_cached cached).trans (recallFact_of_none unreadable.currentRecord? _)
  exact
    { refused := fun result needs =>
        ⟨cause, answers_of_error (readResult_of_unreadable cached unreadable.refused needs)⟩
      noValues := answers_of_ok (bind_of_ok (saysValues_of_ok primal))
      noDuals := answers_of_ok (bind_of_ok (saysValues_of_ok dual)) }

theorem Current.recounts {record : ResultRecord} (current : Current session record)
    (covers : record.Covers session.model) (consistent : session.model.Consistent) :
    Recounts solver session record where
  current := current
  rawStatus := answers_of_ok (bind_of_ok
    ((fromSource_of_cached current.cached).trans (bind_of_ok current.requireRecord_eq)))
  hasValues := current.answers_hasValues
  hasDuals := answers_of_ok (bind_of_ok current.hasResultDuals_eq)
  values := current.readsValues covers consistent

end Telling

/-! ## Runs -/

/-- A run after a solve that succeeded: nothing but a copy that was refused came between the
session and the instance that solved, and the model is still in the generation that was solved. -/
def Orphaned (now : Session World Factory Instance) (past : List (Step World Factory Instance)) :
    Prop :=
  ∃ earlier solve later, past = earlier ++ solve :: later ∧ solve.Succeeded ∧
    (∀ step ∈ later, step.LeavesResults) ∧
    now.model.generation = solve.before.model.generation ∧ ∃ copy ∈ later, copy.IsRefusedCopy

theorem Opened.vouched {solver : Solver World Factory Instance}
    {session : Session World Factory Instance} (opened : Opened solver session)
    (cached : session.isCached = true) (operations : List (Operation Factory)) :
    Vouched (finish solver session operations) (history solver session operations) := by
  have start : Vouched session [] :=
    ⟨cached, fun found present => absurd present (by rw [opened.unrecorded]; nofun)⟩
  exact holds_of_run start (fun _ _ operation vouched =>
    vouched.extend (regular_step solver vouched.cached operation)) operations

section Runs

variable {solver : Solver World Factory Instance} {session : Recorded World Factory Instance}
  {configuration : Configuration Factory} (cached : configuration.mode ≠ .direct)
  (lawful : Lawful configuration session)
include cached lawful

/-- What a solve that succeeded comes to after steps that leave results, while the model is in
the same generation: the record is current, and copies decide on the instance that solved. -/
theorem current_after_solve {operation : Operation Factory} {others : List (Operation Factory)}
    (succeeded : (step solver.recorded session operation).Succeeded)
    (leave : ∀ next ∈ history solver.recorded (step solver.recorded session operation).after others,
      next.LeavesResults)
    (unmoved : (finish solver.recorded (step solver.recorded session operation).after
      others).model.generation = session.model.generation) :
    let later := history solver.recorded (step solver.recorded session operation).after others
    let now := finish solver.recorded (step solver.recorded session operation).after others
    (∃ record, Current now record) ∧ ((∃ copy ∈ later, copy.IsRefusedCopy) → Bereft now) ∧
      ((∀ copy ∈ later, ¬ copy.IsRefusedCopy) → Retains now) := by
  intro later now
  have lawfulNext : Lawful configuration (step solver.recorded session operation).after :=
    lawful_step lawful operation
  have cachedNext := lawfulNext.isCached cached
  have regular := regular_step solver.recorded (lawful.isCached cached) operation
  have above : (step solver.recorded session operation).after.model.generation ≤
      now.model.generation := grows_of_run cachedNext others
  have solved : (step solver.recorded session operation).after.model.generation =
      session.model.generation := Nat.le_antisymm (unmoved ▸ above) regular.model.grows
  refine ⟨?_, retains_or_bereft cached lawfulNext
    (retains_step lawful.sound (lawful.isCached cached) succeeded) leave
    (unmoved.trans solved.symm)⟩
  obtain ⟨record, present, generation⟩ := regular.record_of_succeeded succeeded
  have kept : now.record = some record :=
    holds_of_leaves (fun cached leaves held => (record_of_leaves cached leaves).trans held)
      cachedNext leave present
  exact ⟨record, (lawful_finish lawfulNext others).isCached cached, kept,
    generation.trans unmoved.symm⟩

theorem current_of_split {operations : List (Operation Factory)}
    {earlier later : List (RecordedStep World Factory Instance)}
    {solve : RecordedStep World Factory Instance}
    (split : history solver.recorded session operations = earlier ++ solve :: later)
    (succeeded : solve.Succeeded) (leave : ∀ step ∈ later, step.LeavesResults)
    (unmoved : (finish solver.recorded session operations).model.generation =
      solve.before.model.generation) :
    let now := finish solver.recorded session operations
    (∃ record, Current now record) ∧ ((∃ copy ∈ later, copy.IsRefusedCopy) → Bereft now) ∧
      ((∀ copy ∈ later, ¬ copy.IsRefusedCopy) → Retains now) := by
  obtain ⟨first, operation, others, rfl, rfl, rfl⟩ := history_split split
  have reached : finish solver.recorded session (first ++ operation :: others) =
      finish solver.recorded
        (step solver.recorded (finish solver.recorded session first) operation).after others :=
    finish_append first (operation :: others)
  rw [reached] at unmoved ⊢
  exact current_after_solve cached (lawful_finish lawful first) succeeded leave unmoved

omit lawful

/-- In every run of a session with a model, whatever the solver does: where no instance is live,
or another one than solved last, the session tells nothing of a solve, unless a copy was refused
after a solve that would still be current.  Then the instance that solved is closed, and the
session tells what its record holds all the same. -/
theorem silent_or_orphaned {world : World} {opening : Opening}
    (opened : opening.action solver.recorded (unplayed configuration world) = .ok () session)
    (operations : List (Operation Factory)) :
    let now := finish solver.recorded session operations
    let past := history solver.recorded session operations
    (Released now → Silent solver.recorded now ∨ Orphaned now past) ∧
    (Orphaned now past → Released now ∧ ∃ record, Recounts solver.recorded now record) := by
  intro now past
  have start : Lawful configuration session := (lawful_opening opening world).of_ok opened
  have begun : Opened solver.recorded session := by
    refine .start configuration { world := world } opening ?_
    exact opened
  have cachedStart := start.isCached cached
  have lawful : Lawful configuration now := lawful_finish start operations
  have documented : Documented now := documented_finish operations (begun.documented cachedStart)
  have consistent : now.model.Consistent :=
    Model.consistent_of_reachable (reachable_of_run cachedStart begun.reachable operations)
  constructor
  · intro released
    obtain ⟨record, current⟩ | ⟨cause, unreadable⟩ := current_or_unreadable documented.cached
    · obtain ⟨earlier, solve, later, split, succeeded, leave, generation, _⟩ :=
        (begun.vouched cachedStart operations).record record current.present
      have unmoved := current.generation.symm.trans generation
      refine .inr ⟨earlier, solve, later, split, succeeded, leave, unmoved, ?_⟩
      by_contra none
      obtain ⟨_, _, retains⟩ := current_of_split cached start split succeeded leave unmoved
      exact (retains fun copy member refused => none ⟨copy, member, refused⟩).not_released released
    · exact .inl unreadable.silent
  · rintro ⟨earlier, solve, later, split, succeeded, leave, unmoved, refused⟩
    obtain ⟨⟨record, current⟩, bereft, _⟩ :=
      current_of_split cached start split succeeded leave unmoved
    exact ⟨(bereft refused).released lawful, record,
      current.recounts (documented.covers current) consistent⟩

end Runs

/-! ## Runs with a scripted solver -/

/-- The scripted solver, refusing every second copy. -/
def alternatingSolver : Solver Scripted.World String Scripted.Instance :=
  { Scripted.solver with
    copyModel := fun target model => do
      let script := (← get).script target.script
      let next : Scripted.Script := { script with
        copyError := if script.copyError.isNone then some (.unsupportedOperation "copy") else none }
      modify fun world => world.install target.script next
      match Scripted.copyObstacle target.script script model with
      | some cause => throw cause
      | none => return Scripted.receipt script model }

def alternatingSession : Recorded Scripted.World String Scripted.Instance :=
  stateAfter (start alternatingSolver.recorded)
    (unplayed { factory := some "demo" } { scripts := [("demo", reportingScript)] })

/-- A session that has solved is silent once it is detached, and orphaned by a refused copy. -/
theorem silent_or_orphaned_alternatingSession :
    let detached := finish alternatingSolver.recorded alternatingSession
      (solvingOperations ++ [.detach])
    let refused := finish alternatingSolver.recorded alternatingSession
      (solvingOperations ++ [.sync])
    ((({ factory := some "demo" } : Configuration String).mode ≠ .direct ∧
      Opening.fresh.action alternatingSolver.recorded (unplayed { factory := some "demo" }
        { scripts := [("demo", reportingScript)] }) = .ok () alternatingSession) ∧
      Released detached ∧ Released refused) ∧
    Silent alternatingSolver.recorded detached ∧
    Orphaned refused (history alternatingSolver.recorded alternatingSession
      (solvingOperations ++ [.sync])) ∧
    ∃ record, Recounts alternatingSolver.recorded refused record := by
  intro detached refused
  have cached : ({ factory := some "demo" } : Configuration String).mode ≠ .direct := by decide
  have opened : Opening.fresh.action alternatingSolver.recorded (unplayed
      { factory := some "demo" } { scripts := [("demo", reportingScript)] }) =
        .ok () alternatingSession := rfl
  have detachedEmpty : detached.state = .empty := by decide +kernel
  have refusedEmpty : refused.state = .empty := by decide +kernel
  have no : (step alternatingSolver.recorded detached (.read .rawStatus)).outcome.isOk = false := by
    decide +kernel
  have yes : saysYes (step alternatingSolver.recorded refused (.read .hasValues)).outcome =
      true := by decide +kernel
  obtain ⟨silentOr, recounts⟩ :=
    silent_or_orphaned cached opened (solvingOperations ++ [.detach])
  obtain ⟨silentOrRefused, recountsRefused⟩ :=
    silent_or_orphaned cached opened (solvingOperations ++ [.sync])
  have silent : Silent alternatingSolver.recorded detached := by
    refine (silentOr (.inl detachedEmpty)).resolve_right fun orphaned => ?_
    obtain ⟨_, record, recounted⟩ := recounts orphaned
    rw [recounted.rawStatus] at no
    cases no
  have orphaned := (silentOrRefused (.inl refusedEmpty)).resolve_left fun silent => by
    rw [silent.noValues] at yes
    cases yes
  exact ⟨⟨⟨cached, opened⟩, .inl detachedEmpty, .inl refusedEmpty⟩, silent, orphaned,
    (recountsRefused orphaned).2⟩

/-- Values are told and read where no instance is live, and where another one is than solved. -/
theorem not_silent_refusedCopy :
    let refused := finish alternatingSolver.recorded alternatingSession
      (solvingOperations ++ [.sync])
    let renewed := finish alternatingSolver.recorded alternatingSession
      (solvingOperations ++ [.sync, .backendIndex (.var ⟨0⟩)])
    (Opened alternatingSolver.recorded alternatingSession ∧
      alternatingSession.isCached = true) ∧
    (refused.state = .empty ∧
      saysYes (step alternatingSolver.recorded refused (.read .hasValues)).outcome = true ∧
      (step alternatingSolver.recorded refused (.read (.value ⟨0⟩))).outcome.isOk = true) ∧
    renewed.link.live.map Tracked.number = some 1 ∧
    Transcript.lastSolver? renewed.entries = some 0 ∧
    saysYes (step alternatingSolver.recorded renewed (.read .hasValues)).outcome = true ∧
    (step alternatingSolver.recorded renewed (.read (.value ⟨0⟩))).outcome.isOk = true := by
  intro refused renewed
  have opened : Opened alternatingSolver.recorded alternatingSession :=
    .start { factory := some "demo" } { world := { scripts := [("demo", reportingScript)] } }
      .fresh rfl
  exact ⟨⟨opened, rfl⟩, ⟨by decide +kernel, by decide +kernel, by decide +kernel⟩,
    by decide +kernel, by decide +kernel, by decide +kernel, by decide +kernel⟩

end Session

end ConicModel
