import ConicModel.Proofs.Session.Custody
import ConicModel.Proofs.Session.Frame

/-!
Contract: how a session conducts itself towards its solver, operation by operation.

Owns:
- `Session.Sound`, the invariant of its link for the model as it is;
- the fact that every operation keeps it, in every mode and whichever way it ends.

Does not own: runs of several operations.
-/

namespace ConicModel

variable {World Factory Instance α β : Type}

namespace Session

abbrev Recorded (World Factory Instance : Type) :=
  Session (Journal World Factory) Factory (Tracked Factory Instance)

def entries (session : Recorded World Factory Instance) : List (JournalEntry Factory) :=
  session.link.world.entries

/-- The invariant of the link, for the model as it is. -/
def Sound (session : Recorded World Factory Instance) : Prop :=
  Link.Sound session.model session.link

/-- Whether an action keeps the invariant from one session, whichever way it ends. -/
def KeepsSound (action : Action (Journal World Factory) Factory (Tracked Factory Instance) α)
    (session : Recorded World Factory Instance) : Prop :=
  Ends action session (fun _ after => after.Sound) fun _ after => after.Sound

section Combinations

variable {session : Recorded World Factory Instance}
  {action : Action (Journal World Factory) Factory (Tracked Factory Instance) α}

theorem keepsSound_bind
    {next : α → Action (Journal World Factory) Factory (Tracked Factory Instance) β}
    (first : KeepsSound action session)
    (second : ∀ value after, after.Sound → KeepsSound (next value) after) :
    KeepsSound (action >>= next) session :=
  ends_bind (first.mono (fun value after sound => second value after sound) fun _ _ sound => sound)

theorem keepsSound_onLink
    {onModel : Model Float →
      Link.Action (Journal World Factory) Factory (Tracked Factory Instance) α}
    (keeps : Ends (onModel session.model) session.link
      (fun _ after => Link.Sound session.model after)
      fun _ after => Link.Sound session.model after) :
    KeepsSound (onLink onModel) session :=
  ends_onLink keeps

end Combinations

theorem ends_callLive {session : Recorded World Factory Instance}
    {target : Tracked Factory Instance} (live : session.link.live = some target)
    {action : Instance → Reply World α} {call : Except SolverError α → Call}
    {returned : α → Recorded World Factory Instance → Prop}
    {refused : Error → Recorded World Factory Instance → Prop}
    (ok : ∀ value world,
      returned value { session with link := session.link.noted world target (call (.ok value)) })
    (error : ∀ cause world, refused (.solver cause)
      { session with link := session.link.noted world target (call (.error cause)) }) :
    Ends (callLive fun target => Journal.recordOf target action call) session returned refused := by
  apply ends_onLink
  apply ends_bind
  apply ends_bind
  apply ends_get
  rw [live]
  exact ends_pure (Link.ends_callOf ok error)

section Operations

variable {solver : Solver World Factory Instance} {session : Recorded World Factory Instance}
  (sound : session.Sound)
include sound

theorem Sound.withoutRecord : session.withoutRecord.Sound :=
  sound

theorem Sound.reported (events : List Event) :
    Sound { session with link := { session.link with events := events } } :=
  ⟨sound.tells, sound.configured, sound.copied⟩

theorem keepsSound_reportAll (events : List Event) : KeepsSound (reportAll events) session :=
  ends_modify (sound.reported _)

theorem keepsSound_callLive {action : Instance → Reply World α} {call : Except SolverError α → Call}
    (use : ∀ reply, (call reply).isUse = true)
    (whole : ∀ reply, (call reply).isIncremental = true → session.link.mode = .direct)
    (copiesNothing : ∀ reply, (call reply).copied? = none) :
    KeepsSound (callLive fun target => Journal.recordOf target action call) session := by
  have permits : ∀ (target : Tracked Factory Instance) reply,
      Transcript.Permits session.link.mode session.link.world.entries target.number target.factory
        (call reply) :=
    fun _ reply => ⟨use reply, whole reply, by simp [copiesNothing reply]⟩
  cases live : session.link.live with
  | some target =>
    apply ends_callLive live
    · exact fun value world => sound.noted live (permits target _) (copiesNothing _) world
    · exact fun cause world => sound.noted live (permits target _) (copiesNothing _) world
  | none =>
    apply keepsSound_onLink
    apply ends_bind
    apply ends_bind
    apply ends_get
    rw [live]
    exact ends_throw sound

theorem keepsSound_runSolver : KeepsSound (runSolver solver.recorded) session := by
  apply keepsSound_callLive sound
  · exact fun _ => rfl
  · exact fun _ impossible => nomatch impossible
  · exact fun _ => rfl

/-- Reading results calls the live instance only. -/
theorem Sound.consults {after : Recorded World Factory Instance}
    (consults : Consults solver.recorded session after) : after.Sound := by
  induction consults with
  | refl => exact sound
  | @tail middle after _ glance ih =>
    cases glance with
    | @link target _ live glance =>
      cases glance with
      | get wanted =>
        obtain ⟨world, reply, same⟩ := Journal.stateAfter_recordOf target
          (fun inner => solver.get inner wanted) (.get wanted) middle.link.world
        have noted := Link.Sound.noted ih live
          (Transcript.permits_plain (.get wanted reply) rfl rfl rfl) rfl world
        unfold Link.noted at noted
        rw [← same] at noted
        exact noted
      | report event => exact ih.reported _

theorem keepsSound_readResult (result : ResultRead) :
    KeepsSound (readResult solver.recorded result) session :=
  (consults_readResult result session).mono (fun _ _ moved => sound.consults moved)
    fun _ _ moved => sound.consults moved

theorem keepsSound_editModel (change : Model.Edit Float) :
    KeepsSound
      (editModel change : Action (Journal World Factory) Factory (Tracked Factory Instance) _)
      session := by
  have kept : ∀ after : Recorded World Factory Instance, Edited session after → after.Sound := by
    intro after edited
    obtain ⟨events, same⟩ := edited.link
    unfold Sound
    rw [same]
    exact (sound.reported events).evolve edited.model
  exact (edited_editModel change session).mono (fun _ after edited => kept after edited)
    fun _ after edited => kept after edited

theorem keepsSound_forward (direct : session.link.mode = .direct) (change : Model.Edit Float) :
    KeepsSound (forward solver.recorded change) session := by
  have call : ∀ {γ : Type} {action : Instance → Reply World γ} {call : Except SolverError γ → Call}
      {answer : γ → Option EntityRef}, (∀ reply, (call reply).isUse = true) →
      (∀ reply, (call reply).copied? = none) →
      KeepsSound (do
        let reply ← callLive fun target => Journal.recordOf target action call
        return answer reply) session := by
    intro γ action call answer use copiesNothing
    apply keepsSound_bind (keepsSound_callLive sound use (fun _ _ => direct) copiesNothing)
    exact fun _ after sound => ends_pure sound
  unfold forward Solver.recorded
  dsimp only
  split
  · apply call <;> exact fun _ => rfl
  · split
    · exact ends_throw sound
    · apply call <;> exact fun _ => rfl
  · split
    · exact ends_throw sound
    · apply call <;> exact fun _ => rfl
  · apply call <;> exact fun _ => rfl
  · apply call <;> exact fun _ => rfl
  · apply call <;> exact fun _ => rfl
  · apply call <;> exact fun _ => rfl
  · apply call <;> exact fun _ => rfl
  · exact ends_throw sound

omit sound in
theorem mode_of_not_cached (direct : session.isCached ≠ true) : session.link.mode = .direct := by
  unfold isCached Mode.isCached at direct
  split at direct
  · assumption
  · contradiction

theorem keepsSound_edit (change : Model.Edit Float) :
    KeepsSound (edit solver.recorded change) session := by
  apply ends_bind
  apply ends_get
  split
  · exact keepsSound_editModel sound change
  · rename_i direct
    exact keepsSound_forward sound (mode_of_not_cached direct) change

theorem keepsSound_prepare : KeepsSound (onLink (Link.prepare solver.recorded)) session := by
  apply keepsSound_onLink
  by_cases direct : session.link.mode = .direct
  · apply ends_bind
    apply ends_get
    rw [direct]
    exact ends_pure sound
  · exact (Link.synced_prepare sound direct).mono (fun _ _ ended => ended.1) fun _ _ sound => sound

theorem keepsSound_prepareIfAutomatic :
    KeepsSound (prepareIfAutomatic solver.recorded) session := by
  apply ends_bind
  apply ends_get
  split
  · exact keepsSound_prepare sound
  · exact ends_pure sound

theorem keepsSound_collect : KeepsSound (collect solver.recorded) session := by
  apply keepsSound_onLink
  apply ends_bind
  apply ends_get
  split
  · exact ends_throw sound
  · rename_i map _
    apply ends_bind
    apply ends_bind
    apply ends_get
    split
    · rename_i target live
      apply ends_pure
      refine (Link.consults_collect session.model map session.link).mono ?_ ?_
      · exact fun _ link moved => sound.consults (consults_of_link live moved).1
      · exact fun _ link moved => sound.consults (consults_of_link live moved).1
    · exact ends_throw sound

theorem keepsSound_optimize : KeepsSound (optimize solver.recorded) session := by
  apply ends_bind
  apply ends_modify
  apply ends_bind
  apply ends_get
  dsimp only
  split
  · apply keepsSound_bind (keepsSound_prepare sound.withoutRecord)
    intro _ prepared sound
    apply keepsSound_bind (keepsSound_runSolver sound)
    intro _ ran sound
    apply keepsSound_bind (keepsSound_collect sound)
    intro record collected sound
    apply keepsSound_bind (keepsSound_reportAll sound _)
    exact fun _ reported sound => ends_modify sound
  · apply keepsSound_bind (keepsSound_runSolver sound.withoutRecord)
    exact fun _ ran sound => keepsSound_reportAll sound _

theorem keepsSound_attach (factory : Factory) :
    KeepsSound (attach solver.recorded factory) session :=
  ends_bind (ends_modify (keepsSound_onLink (Link.sound_attach sound factory)))

theorem keepsSound_sync : KeepsSound (sync solver.recorded) session :=
  keepsSound_onLink
    ((Link.synced_sync sound).mono (fun _ _ ended => ended.1) fun _ _ sound => sound)

theorem keepsSound_optimizeWith (factory : Factory) :
    KeepsSound (optimizeWith solver.recorded factory) session := by
  apply ends_bind
  apply ends_get
  split
  · exact ends_throw sound
  · split
    · exact ends_throw sound
    · apply keepsSound_bind (keepsSound_attach sound factory)
      intro _ attached sound
      apply keepsSound_bind (keepsSound_sync sound)
      exact fun _ synced sound => keepsSound_optimize sound

theorem keepsSound_ask (question : String) (answer : Model Float → α) :
    KeepsSound (ask question answer) session := by
  apply ends_bind
  apply ends_get
  split
  · exact ends_pure sound
  · exact ends_throw sound

omit sound in
theorem keepsSound_done
    {action : Action (Journal World Factory) Factory (Tracked Factory Instance) Unit}
    (keeps : KeepsSound action session) : KeepsSound (do action; return Answer.done) session :=
  keepsSound_bind keeps fun _ _ sound => ends_pure sound

theorem keepsSound_backendIndex (entity : EntityRef) :
    KeepsSound (backendIndex solver.recorded entity) session := by
  apply keepsSound_bind (keepsSound_prepareIfAutomatic sound)
  intro _ after sound
  apply keepsSound_onLink
  unfold Ends Link.backendIndex
  cases after.link.indexOf after.model entity with
  | ok index => exact sound
  | error cause => exact sound

theorem keepsSound_entityOf (index : IndexRef) :
    KeepsSound (entityOf solver.recorded index) session := by
  apply keepsSound_bind (keepsSound_prepareIfAutomatic sound)
  intro _ after sound
  apply keepsSound_onLink
  unfold Ends Link.entityBehind
  cases after.link.entityOf after.model index with
  | ok entity => exact sound
  | error cause => exact sound

theorem keepsSound_perform (operation : Operation Factory) :
    KeepsSound (perform solver.recorded operation) session := by
  cases operation with
  | edit change =>
    apply keepsSound_bind (keepsSound_edit sound change)
    intro created after sound
    cases created <;> exact ends_pure sound
  | ask question => exact keepsSound_ask sound _ _
  | attach factory => exact keepsSound_done (keepsSound_attach sound factory)
  | reattach =>
    exact keepsSound_done
      (ends_bind (ends_modify (keepsSound_onLink (Link.sound_reattach sound))))
  | detach =>
    exact keepsSound_done
      (ends_bind (ends_modify (keepsSound_onLink (Link.sound_detach sound))))
  | setFactory factory =>
    exact keepsSound_done
      (ends_bind (ends_modify (keepsSound_onLink (Link.sound_setFactory sound factory))))
  | sync => exact keepsSound_done (keepsSound_sync sound)
  | optimize => exact keepsSound_done (keepsSound_optimize sound)
  | optimizeWith factory => exact keepsSound_done (keepsSound_optimizeWith sound factory)
  | backendIndex entity =>
    exact keepsSound_bind (keepsSound_backendIndex sound entity) fun _ _ sound => ends_pure sound
  | entityOf index =>
    exact keepsSound_bind (keepsSound_entityOf sound index) fun _ _ sound => ends_pure sound
  | read result => exact keepsSound_readResult sound result

theorem sound_step (operation : Operation Factory) :
    (stateAfter (perform solver.recorded operation) session).Sound :=
  ends_stateAfter.mp (keepsSound_perform sound operation)

end Operations

end Session

end ConicModel
