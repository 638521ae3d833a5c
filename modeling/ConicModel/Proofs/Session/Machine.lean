import ConicModel.Proofs.Session.Handling
import ConicModel.Proofs.Session.Refusal

/-!
Contract: the state of a session with a model follows the machine that was specified for it.

Owns:
- `Step.Follows`, the machine: the state after each kind of operation, by what came of it;
- `Operation.copyBudget`, how many copies an operation may cost;
- the fact that every step of every run follows the machine within its budget.

Does not own: what an operation does to the link.
-/

namespace ConicModel.Session

open Transcript

variable {World Factory Instance α β : Type}

/-! ## The machine -/

/-- The session is synced, and nothing was in the way of that. -/
def Prepared (solver : Solver World Factory Instance)
    (before after : Recorded World Factory Instance) : Prop :=
  after.state = .synced ∧ ∀ cause, ¬ Link.Unprepared solver before.model before.link cause

/-- The session is synced, or it is empty because no instance could be instantiated or the
model could not be copied. -/
def Settles (solver : Solver World Factory Instance) (before : Recorded World Factory Instance)
    (outcome : Except Error Answer) (after : Recorded World Factory Instance) : Prop :=
  Prepared solver before after ∨ after.state = .empty ∧
    ∃ cause, outcome = .error cause ∧ Link.Unprepared solver before.model before.link cause

def Step.Follows (solver : Solver World Factory Instance)
    (step : RecordedStep World Factory Instance) : Prop :=
  match step.operation with
  | .attach _ | .reattach => step.after.state = if step.outcome.isOk then .outOfSync else .empty
  | .detach | .setFactory _ => step.after.state = .empty
  | .sync => step.after.state = if step.outcome.isOk then .synced else .empty
  | .edit _ =>
    step.after.state =
      if step.outcome.isOk ∧ step.before.model.generation < step.after.model.generation ∧
        step.before.state = .synced then .outOfSync
      else step.before.state
  | .ask _ | .read _ => step.after.state = step.before.state
  | .optimize | .backendIndex _ | .entityOf _ =>
    if step.before.link.mode = .automatic then
      Settles solver step.before step.outcome step.after
    else step.after.state = step.before.state
  | .optimizeWith _ =>
    if step.before.link.factory.isSome then step.after.state = step.before.state
    else step.after.state = .synced ∨ step.after.state = .empty ∧ step.outcome.isOk = false

def Operation.copyBudget (mode : Mode) (state : SyncState) : Operation Factory → Nat
  | .sync | .optimizeWith _ => 1
  | .optimize | .backendIndex _ | .entityOf _ =>
    if mode = .automatic ∧ state ≠ .synced then 1 else 0
  | _ => 0

/-! ## Handling -/

/-- Calls that copy nothing and reports; the model is the same, and the link holds what it
held. -/
structure Handles (before after : Recorded World Factory Instance) : Prop where
  model : after.model = before.model
  link : Link.Handles 0 before.link after.link

instance : IsPreorder (Recorded World Factory Instance) Handles where
  refl session := ⟨rfl, refl_of (Link.Handles 0) session.link⟩
  trans _ _ _ left right := ⟨right.model.trans left.model, left.link.trans right.link⟩

section Handles

variable {solver : Solver World Factory Instance} {before after : Recorded World Factory Instance}

theorem Handles.state (handles : Handles before after) : after.state = before.state := by
  unfold Session.state
  rw [handles.model]
  exact handles.link.state before.model

theorem handles_onLink
    {action : Model Float →
      Link.Action (Journal World Factory) Factory (Tracked Factory Instance) α}
    (handles : ∀ model, Moves (Link.Handles 0) (action model)) : Moves Handles (onLink action) := by
  intro session
  apply ends_onLink
  exact (handles session.model session.link).mono (fun _ _ moved => ⟨rfl, moved⟩)
    fun _ _ moved => ⟨rfl, moved⟩

theorem handles_requireLive :
    Moves (Link.Handles 0) (Link.requireLive :
      Link.Action (Journal World Factory) Factory (Tracked Factory Instance) _) := by
  apply moves_bind moves_get
  intro link
  split
  · exact moves_pure _
  · exact moves_throw _

theorem handles_runSolver : Moves Handles (runSolver solver.recorded) :=
  handles_onLink fun _ => moves_bind handles_requireLive fun target =>
    Link.handles_call fun journal =>
      spends_recordOf target solver.optimize .optimize journal fun _ => rfl

theorem handles_collect : Moves Handles (collect solver.recorded) := by
  refine handles_onLink fun model => moves_bind moves_get fun link => ?_
  split
  · exact moves_throw _
  · rename_i map _
    refine moves_bind handles_requireLive fun target => ?_
    exact (Link.consults_collect model map).mono fun _ _ consults => consults.handles

theorem handles_record (record : Recorded World Factory Instance → Option ResultRecord) :
    Moves Handles (modify fun session => { session with record := record session } :
      Action (Journal World Factory) Factory (Tracked Factory Instance) Unit) :=
  moves_modify fun session => ⟨rfl, refl_of (Link.Handles 0) session.link⟩

theorem handles_reportAll (events : List Event) :
    Moves Handles (reportAll events :
      Action (Journal World Factory) Factory (Tracked Factory Instance) Unit) :=
  moves_modify fun _ => ⟨rfl, rfl, rfl, rfl, .refl _⟩

theorem Consults.handles (consults : Consults solver.recorded before after) :
    Handles before after := by
  induction consults with
  | refl => exact refl_of Handles before
  | tail _ glance inductionHypothesis =>
    refine trans_of Handles inductionHypothesis ?_
    cases glance with
    | link _ glance => exact ⟨rfl, Link.Consults.handles (.single glance)⟩

theorem handles_ask (question : String) (answer : Model Float → α) :
    Moves Handles (ask question answer :
      Action (Journal World Factory) Factory (Tracked Factory Instance) α) := by
  apply moves_bind moves_get
  intro session
  split
  · exact moves_pure _
  · exact moves_throw _

theorem handles_backendIndex (entity : EntityRef) :
    Moves Handles (onLink fun model => Link.backendIndex model entity :
      Action (Journal World Factory) Factory (Tracked Factory Instance) IndexRef) := by
  refine handles_onLink fun model link => ?_
  unfold Ends Link.backendIndex
  cases link.indexOf model entity with
  | ok index => exact refl_of (Link.Handles 0) link
  | error cause => exact refl_of (Link.Handles 0) link

theorem handles_entityBehind (index : IndexRef) :
    Moves Handles (onLink fun model => Link.entityBehind model index :
      Action (Journal World Factory) Factory (Tracked Factory Instance) EntityRef) := by
  refine handles_onLink fun model link => ?_
  unfold Ends Link.entityBehind
  cases link.entityOf model index with
  | ok entity => exact refl_of (Link.Handles 0) link
  | error cause => exact refl_of (Link.Handles 0) link

end Handles

/-! ## Preparing -/

section Operations

variable {solver : Solver World Factory Instance} {session : Recorded World Factory Instance}

/-- Whether an action has the model in the instance in automatic mode, or says why not, and
leaves the state in manual mode, within the budget for either. -/
def Prepares (solver : Solver World Factory Instance)
    (action : Action (Journal World Factory) Factory (Tracked Factory Instance) α)
    (session : Recorded World Factory Instance) : Prop :=
  let budget := if session.link.mode = .automatic ∧ session.state ≠ .synced then 1 else 0
  Ends action session
    (fun _ after =>
      (if session.link.mode = .automatic then Prepared solver session after
        else after.state = session.state) ∧
        Spends budget session.entries after.entries)
    fun cause after =>
      (if session.link.mode = .automatic then
          Prepared solver session after ∨ after.state = .empty ∧
            Link.Unprepared solver session.model session.link cause
        else after.state = session.state) ∧
        Spends budget session.entries after.entries

theorem Prepares.bind {action : Action (Journal World Factory) Factory (Tracked Factory Instance) α}
    (prepares : Prepares solver action session)
    {next : α → Action (Journal World Factory) Factory (Tracked Factory Instance) β}
    (handles : ∀ value, Moves Handles (next value)) : Prepares solver (action >>= next) session := by
  apply ends_bind
  refine Ends.mono prepares ?_ fun _ _ ended => ended
  rintro value prepared ⟨now, spends⟩
  refine (handles value prepared).mono ?_ ?_
  · intro _ after moved
    unfold Prepared at now ⊢
    rw [moved.state]
    exact ⟨now, spends.trans moved.link.spends⟩
  · intro cause after moved
    unfold Prepared at now ⊢
    rw [moved.state]
    refine ⟨?_, spends.trans moved.link.spends⟩
    by_cases automatic : session.link.mode = .automatic
    · rw [if_pos automatic] at now ⊢
      exact .inl now
    · rw [if_neg automatic] at now ⊢
      exact now

theorem prepares_prepare (cached : session.isCached = true) :
    Prepares solver (onLink (Link.prepare solver.recorded)) session := by
  by_cases automatic : session.link.mode = .automatic
  · have budget : Link.copyNeed session.link session.model =
        if session.link.mode = .automatic ∧ session.state ≠ .synced then 1 else 0 := by
      unfold Link.copyNeed state
      split <;> simp_all
    unfold Prepares
    simp only [if_pos automatic, ← budget]
    apply ends_onLink
    refine (Link.ends_prepare automatic).mono (fun _ _ ended => ended) ?_
    exact fun _ _ ended => ⟨.inr ended.1, ended.2⟩
  · have manual : session.link.mode = .manual := by
      cases mode : session.link.mode with
      | automatic => contradiction
      | manual => rfl
      | direct => exact absurd mode (not_direct_of_cached cached)
    unfold Prepares
    simp only [automatic, false_and, if_false]
    apply ends_onLink
    apply ends_bind
    apply ends_get
    rw [manual]
    dsimp only
    split
    · exact ends_throw ⟨rfl, .refl _⟩
    · exact ends_throw ⟨rfl, .refl _⟩
    · exact ends_pure ⟨rfl, .refl _⟩

theorem prepares_prepareIfAutomatic (cached : session.isCached = true) :
    Prepares solver (prepareIfAutomatic solver.recorded) session := by
  apply ends_bind
  apply ends_get
  by_cases automatic : session.link.mode = .automatic
  · rw [if_pos automatic]
    exact prepares_prepare cached
  · simp only [automatic, false_and, if_false]
    exact ends_pure ⟨rfl, .refl _⟩

theorem prepares_optimize (cached : session.isCached = true) :
    Prepares solver (optimize solver.recorded) session := by
  apply ends_bind
  apply ends_modify
  apply ends_bind
  apply ends_get
  show Ends (if session.isCached = true then _ else _) session.withoutRecord _ _
  rw [if_pos cached]
  have prepared : Prepares solver (onLink (Link.prepare solver.recorded)) session.withoutRecord :=
    prepares_prepare cached
  exact prepared.bind fun _ => moves_bind handles_runSolver fun _ =>
    moves_bind handles_collect fun record => moves_bind (handles_reportAll _) fun _ =>
      handles_record fun _ => some record

/-! ## Replacing the instance and copying -/

theorem ends_attach (cached : session.isCached = true) (factory : Factory) :
    Ends (attach solver.recorded factory) session
      (fun _ after => after.state = .outOfSync ∧ Spends 0 session.entries after.entries)
      fun _ after => after.state = .empty ∧ Spends 0 session.entries after.entries :=
  ends_bind (ends_modify (ends_onLink (Link.ends_attach (not_direct_of_cached cached) factory)))

theorem ends_reattach (cached : session.isCached = true) :
    Ends (reattach solver.recorded) session
      (fun _ after => after.state = .outOfSync ∧ Spends 0 session.entries after.entries)
      fun _ after => after.state = .empty ∧ Spends 0 session.entries after.entries :=
  ends_bind (ends_modify (ends_onLink (Link.ends_reattach (not_direct_of_cached cached))))

theorem ends_detach (cached : session.isCached = true) :
    Ends (detach solver.recorded) session
      (fun _ after => after.state = .empty ∧ Spends 0 session.entries after.entries)
      fun _ _ => False :=
  ends_bind (ends_modify (ends_onLink (Link.ends_detach (not_direct_of_cached cached))))

theorem ends_setFactory (cached : session.isCached = true) (factory : Factory) :
    Ends (setFactory solver.recorded factory) session
      (fun _ after => after.state = .empty ∧ Spends 0 session.entries after.entries)
      fun _ _ => False :=
  ends_bind (ends_modify (ends_onLink
    (Link.ends_setFactory (not_direct_of_cached cached) factory)))

theorem ends_sync (cached : session.isCached = true) :
    Ends (sync solver.recorded) session
      (fun _ after => after.state = .synced ∧ Spends 1 session.entries after.entries)
      fun _ after => after.state = .empty ∧ Spends 1 session.entries after.entries :=
  ends_onLink (Link.ends_sync (not_direct_of_cached cached))

/-- Solving in a synced session copies nothing and leaves it synced or empty. -/
theorem ends_optimize_synced (cached : session.isCached = true)
    (synced : session.state = .synced) :
    Ends (optimize solver.recorded) session
      (fun _ after => after.state = .synced ∧ Spends 0 session.entries after.entries)
      fun _ after => (after.state = .synced ∨ after.state = .empty) ∧
        Spends 0 session.entries after.entries := by
  have prepares : Prepares solver (optimize solver.recorded) session := prepares_optimize cached
  unfold Prepares at prepares
  simp only [synced, ne_eq, not_true_eq_false, and_false, if_false] at prepares
  refine prepares.mono ?_ ?_
  · rintro _ after ⟨now, spends⟩
    refine ⟨?_, spends⟩
    split at now
    · exact now.1
    · exact now
  · rintro _ after ⟨now, spends⟩
    refine ⟨?_, spends⟩
    split at now
    · exact now.imp And.left And.left
    · exact .inl now

/-- Solving with a factory is refused at once where there is one, and otherwise costs one copy
at most. -/
theorem ends_optimizeWith (cached : session.isCached = true) (factory : Factory) :
    Ends (optimizeWith solver.recorded factory) session
      (fun _ after => (session.link.factory.isSome = false ∧ after.state = .synced) ∧
        Spends 1 session.entries after.entries)
      fun _ after => (if session.link.factory.isSome then after.state = session.state
        else after.state = .synced ∨ after.state = .empty) ∧
        Spends 1 session.entries after.entries := by
  apply ends_bind
  apply ends_get
  rw [cached, if_neg (by decide)]
  by_cases configured : session.link.factory.isSome = true
  · simp only [configured, if_true]
    exact ends_throw ⟨rfl, (Spends.refl _).mono (Nat.zero_le 1)⟩
  · simp only [configured]
    apply ends_bind
    refine ((ends_attach cached factory).and (forgets_attach factory)).mono ?_ ?_
    · rintro _ attached ⟨⟨_, free⟩, managed⟩
      have cachedAttached := managed.kept.isCached.trans cached
      apply ends_bind
      refine ((ends_sync cachedAttached).and (manages_onLink Link.manages_sync attached)).mono ?_ ?_
      · rintro _ copied ⟨⟨synced, spends⟩, managed⟩
        have cachedCopied := managed.kept.isCached.trans cachedAttached
        refine (ends_optimize_synced cachedCopied synced).mono ?_ ?_
        · rintro _ after ⟨now, further⟩
          exact ⟨⟨trivial, now⟩, (free.trans spends).trans further⟩
        · rintro _ after ⟨now, further⟩
          exact ⟨now, (free.trans spends).trans further⟩
      · rintro _ copied ⟨⟨empty, spends⟩, _⟩
        exact ⟨.inr empty, free.trans spends⟩
    · rintro _ attached ⟨⟨empty, free⟩, _⟩
      exact ⟨.inr empty, free.mono (Nat.zero_le 1)⟩

/-! ## Every operation -/

/-- A step from a session to an outcome and another session follows the machine, within the
budget of the operation. -/
def Complies (solver : Solver World Factory Instance) (session : Recorded World Factory Instance)
    (operation : Operation Factory) (outcome : Except Error Answer)
    (after : Recorded World Factory Instance) : Prop :=
  Step.Follows solver ⟨session, operation, outcome, after⟩ ∧
    Spends (operation.copyBudget session.link.mode session.state) session.entries after.entries

theorem complies_edit (sound : session.Sound) (cached : session.isCached = true)
    (change : Model.Edit Float) :
    Ends (perform solver.recorded (.edit change)) session
      (fun answer after => Complies solver session (.edit change) (.ok answer) after)
      fun cause after => Complies solver session (.edit change) (.error cause) after := by
  have keepsModel := not_direct_of_cached cached
  apply ends_bind
  unfold Ends
  rw [edit_of_cached cached]
  refine ((edited_editModel change session).and ends_editModel_refused).mono ?_ ?_
  · rintro created after ⟨edited, _⟩
    obtain ⟨events, same⟩ := edited.link
    have state : after.state = session.link.state after.model := by
      unfold Session.state
      rw [same]
      rfl
    have entries : after.entries = session.entries := by
      unfold Session.entries
      rw [same]
    have complies : ∀ answer, Complies solver session (.edit change) (.ok answer) after := by
      intro answer
      refine ⟨?_, entries ▸ .refl _⟩
      show after.state = _
      rw [state, sound.state_of_evolves edited.model keepsModel]
      exact if_congr (and_iff_right rfl).symm rfl rfl
    cases created <;> exact complies _
  · rintro cause _ ⟨_, _, rfl⟩
    refine ⟨?_, .refl _⟩
    show session.state = _
    rw [if_neg (by simp [Except.isOk, Except.toBool])]

/-- An action that handles the instance keeps the state and copies nothing. -/
theorem complies_of_handles {operation : Operation Factory}
    (keeps : ∀ outcome after, Step.Follows solver ⟨session, operation, outcome, after⟩ ↔
      after.state = session.state)
    {action : Action (Journal World Factory) Factory (Tracked Factory Instance) Answer}
    (handles : Moves Handles action) :
    Ends action session (fun answer after => Complies solver session operation (.ok answer) after)
      fun cause after => Complies solver session operation (.error cause) after :=
  (handles session).mono
    (fun _ _ moved => ⟨(keeps _ _).mpr moved.state, moved.link.spends.mono (Nat.zero_le _)⟩)
    fun _ _ moved => ⟨(keeps _ _).mpr moved.state, moved.link.spends.mono (Nat.zero_le _)⟩

theorem complies_of_prepares {operation : Operation Factory}
    (settles : ∀ outcome after, Step.Follows solver ⟨session, operation, outcome, after⟩ ↔
      if session.link.mode = .automatic then Settles solver session outcome after
      else after.state = session.state)
    (budget : operation.copyBudget session.link.mode session.state =
      if session.link.mode = .automatic ∧ session.state ≠ .synced then 1 else 0)
    {action : Action (Journal World Factory) Factory (Tracked Factory Instance) Answer}
    (prepares : Prepares solver action session) :
    Ends action session (fun answer after => Complies solver session operation (.ok answer) after)
      fun cause after => Complies solver session operation (.error cause) after := by
  unfold Complies
  simp only [settles, budget]
  unfold Prepares at prepares
  by_cases automatic : session.link.mode = .automatic
  · simp only [if_pos automatic] at prepares ⊢
    refine prepares.mono ?_ ?_
    · exact fun _ _ ended => ⟨.inl ended.1, ended.2⟩
    · rintro cause after ⟨now, spends⟩
      exact ⟨now.imp_right fun failed => ⟨failed.1, cause, rfl, failed.2⟩, spends⟩
  · simp only [if_neg automatic] at prepares ⊢
    exact prepares

/-- Every operation follows the machine, whichever way it ends. -/
theorem complies_perform (sound : session.Sound) (cached : session.isCached = true)
    (operation : Operation Factory) :
    Ends (perform solver.recorded operation) session
      (fun answer after => Complies solver session operation (.ok answer) after)
      fun cause after => Complies solver session operation (.error cause) after := by
  have keepsModel := not_direct_of_cached cached
  cases operation with
  | edit change => exact complies_edit sound cached change
  | ask question => exact complies_of_handles (fun _ _ => .rfl) (handles_ask _ _)
  | attach factory =>
    exact ends_bind ((ends_attach cached factory).mono (fun _ _ ended => ends_pure ended)
      fun _ _ ended => ended)
  | reattach =>
    exact ends_bind ((ends_reattach cached).mono (fun _ _ ended => ends_pure ended)
      fun _ _ ended => ended)
  | detach =>
    exact ends_bind ((ends_detach cached).mono (fun _ _ ended => ends_pure ended)
      fun _ _ impossible => impossible.elim)
  | setFactory factory =>
    exact ends_bind ((ends_setFactory cached factory).mono (fun _ _ ended => ends_pure ended)
      fun _ _ impossible => impossible.elim)
  | sync =>
    exact ends_bind ((ends_sync cached).mono (fun _ _ ended => ends_pure ended)
      fun _ _ ended => ended)
  | optimize =>
    exact complies_of_prepares (fun _ _ => .rfl) rfl
      ((prepares_optimize cached).bind fun _ => moves_pure _)
  | optimizeWith factory =>
    apply ends_bind
    refine (ends_optimizeWith cached factory).mono ?_ ?_
    · rintro _ after ⟨⟨absent, now⟩, spends⟩
      refine ends_pure ⟨?_, spends⟩
      show if session.link.factory.isSome = true then _ else _
      rw [absent]
      exact .inl now
    · rintro cause after ⟨now, spends⟩
      refine ⟨?_, spends⟩
      show if session.link.factory.isSome = true then _ else _
      split at now
      · rw [if_pos (by assumption)]
        exact now
      · rw [if_neg (by assumption)]
        exact now.imp_right fun empty => ⟨empty, rfl⟩
  | backendIndex entity =>
    exact complies_of_prepares (fun _ _ => .rfl) rfl
      (((prepares_prepareIfAutomatic cached).bind fun _ => handles_backendIndex entity).bind
        fun _ => moves_pure _)
  | entityOf index =>
    exact complies_of_prepares (fun _ _ => .rfl) rfl
      (((prepares_prepareIfAutomatic cached).bind fun _ => handles_entityBehind index).bind
        fun _ => moves_pure _)
  | read result =>
    exact complies_of_handles (fun _ _ => .rfl)
      ((consults_readResult result).mono fun _ _ consults => consults.handles)

end Operations

/-! ## Runs -/

structure Followed (solver : Solver World Factory Instance) (configuration : Configuration Factory)
    (now : Recorded World Factory Instance) (past : List (RecordedStep World Factory Instance)) :
    Prop where
  lawful : Lawful configuration now
  steps : ∀ step ∈ past, step.before.link.mode = configuration.mode ∧ step.Follows solver ∧
    Spends (step.operation.copyBudget configuration.mode step.before.state)
      step.before.entries step.after.entries

theorem Followed.extend {solver : Solver World Factory Instance}
    {configuration : Configuration Factory} (cached : configuration.mode ≠ .direct)
    {now : Recorded World Factory Instance} {past : List (RecordedStep World Factory Instance)}
    (followed : Followed solver configuration now past) (operation : Operation Factory) :
    Followed solver configuration (step solver.recorded now operation).after
      (past ++ [step solver.recorded now operation]) where
  lawful := lawful_step followed.lawful operation
  steps := by
    have lawful := followed.lawful
    intro other member
    rcases List.mem_append.mp member with earlier | last
    · exact followed.steps other earlier
    · rw [List.mem_singleton.mp last]
      have complies := Step.of_ends (Complies solver now operation)
        (complies_perform lawful.sound (lawful.isCached cached) operation)
      exact ⟨lawful.mode, complies.1, lawful.mode ▸ complies.2⟩

/-- In every run of a session with a model, whatever the solver does, every step follows the
specified machine and copies the model no more often than its budget allows. -/
theorem follows_machine {solver : Solver World Factory Instance}
    {configuration : Configuration Factory} {world : World} {opening : Opening}
    {session : Recorded World Factory Instance} (cached : configuration.mode ≠ .direct)
    (opened : opening.action solver.recorded (unplayed configuration world) = .ok () session)
    (operations : List (Operation Factory)) :
    ∀ step ∈ history solver.recorded session operations,
      step.before.link.mode = configuration.mode ∧ step.Follows solver ∧
        Spends (step.operation.copyBudget configuration.mode step.before.state)
          step.before.entries step.after.entries := by
  have start : Followed solver configuration session [] :=
    ⟨(lawful_opening opening world).of_ok opened, by simp⟩
  have run : Followed solver configuration (finish solver.recorded session operations)
      (history solver.recorded session operations) :=
    holds_of_run start (fun _ _ operation followed => followed.extend cached operation) operations
  exact run.steps

def continuousScript : Scripted.Script where
  badCategories := ["integer"]

def continuousSession : Recorded Scripted.World String Scripted.Instance :=
  stateAfter (start Scripted.solver.recorded)
    (unplayed { factory := some "demo" } { scripts := [("demo", continuousScript)] })

/-- The first model can be copied, the second one cannot. -/
def integerOperations : List (Operation String) :=
  [.edit (.addVariable .free .continuous), .optimize, .edit (.addVariable .free .integer),
    .backendIndex (.var ⟨0⟩)]

theorem follows_continuousSession :
    (({ factory := some "demo" } : Configuration String).mode ≠ .direct ∧
      Opening.fresh.action Scripted.solver.recorded (unplayed { factory := some "demo" }
        { scripts := [("demo", continuousScript)] }) = .ok () continuousSession) ∧
      ∃ step ∈ history Scripted.solver.recorded continuousSession integerOperations,
        step.before.state = .outOfSync ∧ step.after.state = .empty ∧
          (∃ cause, step.outcome = .error cause ∧
            Link.Unprepared Scripted.solver step.before.model step.before.link cause) ∧
          Spends 1 step.before.entries step.after.entries := by
  have cached : ({ factory := some "demo" } : Configuration String).mode ≠ .direct := by decide
  have opened : Opening.fresh.action Scripted.solver.recorded (unplayed { factory := some "demo" }
      { scripts := [("demo", continuousScript)] }) = .ok () continuousSession := rfl
  let before := finish Scripted.solver.recorded continuousSession (integerOperations.take 3)
  have member : step Scripted.solver.recorded before (.backendIndex (.var ⟨0⟩)) ∈
      history Scripted.solver.recorded continuousSession integerOperations :=
    List.mem_cons_of_mem _ (List.mem_cons_of_mem _ (List.mem_cons_of_mem _ List.mem_cons_self))
  obtain ⟨_, follows, spends⟩ := follows_machine cached opened integerOperations _ member
  have outOfSync : before.state = .outOfSync := by decide +kernel
  have empty : (step Scripted.solver.recorded before (.backendIndex (.var ⟨0⟩))).after.state =
      .empty := by decide +kernel
  have automatic : before.link.mode = .automatic := by decide +kernel
  refine ⟨⟨cached, opened⟩, _, member, outOfSync, empty, ?_, spends⟩
  have settles : Settles Scripted.solver before
      (step Scripted.solver.recorded before (.backendIndex (.var ⟨0⟩))).outcome
      (step Scripted.solver.recorded before (.backendIndex (.var ⟨0⟩))).after := by
    unfold Step.Follows at follows
    exact (if_pos automatic).mp follows
  rcases settles with ⟨synced, _⟩ | ⟨_, failed⟩
  · rw [empty] at synced
    cases synced
  · exact failed

end ConicModel.Session
