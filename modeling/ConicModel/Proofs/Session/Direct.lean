import ConicModel.Proofs.Session.Record

/-!
Contract: a session without a model keeps the instance with which it started, and no record.

Owns:
- `Attached`, which says that the session has a live instance and neither a model nor a record;
- the fact that a session without a model starts attached;
- the fact that every operation keeps it attached to the same instance.

Does not own: what the instance does.

An operation that would replace the instance is refused before it touches it.
-/

namespace ConicModel

variable {World Factory Instance α : Type}

namespace Link

variable {solver : Solver World Factory Instance} {link : Link World Factory Instance}

/-- Without a model, an operation that needs one is refused at once. -/
theorem requireCached_of_direct (direct : link.mode = .direct) (operation : String)
    (next : Unit → Action World Factory Instance α) :
    (requireCached operation >>= next) link =
      .error (.configuration (.unavailable operation)) link := by
  apply bind_of_error
  show (if link.mode = .direct then _ else _ : Action World Factory Instance Unit) link = _
  rw [if_pos direct]
  rfl

/-- An instance that could be created and configured is the live one. -/
theorem live_of_instantiate :
    Ends (instantiate solver) link (fun _ after => ∃ target, after.live = some target)
      fun _ _ => True := by
  have ignored : ∀ {β : Type} {action : Action World Factory Instance β}
      {now : Link World Factory Instance} {returned : β → Link World Factory Instance → Prop},
      (∀ value after, returned value after) → Ends action now returned fun _ _ => True :=
    fun always => ends_eq.mono (fun value after _ => always value after) fun _ _ _ => trivial
  apply ends_bind
  apply ends_get
  split
  · exact ends_throw trivial
  · apply ends_bind
    refine ignored fun target created => ?_
    apply ends_bind
    refine ignored fun _ reported => ?_
    apply ends_bind
    refine ignored fun _ configured => ?_
    exact ends_modify ⟨target, rfl⟩

end Link

namespace Session

variable {solver : Solver World Factory Instance} {session : Session World Factory Instance}
  {target : Instance}

/-- There is no model and no record, and the given instance is live. -/
structure Attached (target : Instance) (session : Session World Factory Instance) : Prop where
  direct : session.isCached = false
  live : session.link.live = some target
  unrecorded : session.record = none

theorem mode_of_direct (direct : session.isCached = false) : session.link.mode = .direct := by
  unfold isCached at direct
  cases mode : session.link.mode with
  | direct => rfl
  | automatic | manual =>
    rw [mode] at direct
    cases direct

theorem Attached.relink (attached : Attached target session) {link : Link World Factory Instance}
    (mode : link.mode = session.link.mode) (live : link.live = session.link.live) :
    Attached target { session with link := link } :=
  ⟨(congrArg Mode.isCached mode).trans attached.direct, live.trans attached.live,
    attached.unrecorded⟩

theorem Attached.resultSource? (attached : Attached target session) :
    session.resultSource? = some target := by
  unfold Session.resultSource?
  rw [attached.direct, if_neg (by decide)]
  exact attached.live

/-! ## The start -/

theorem live_of_start (session : Session World Factory Instance) :
    Ends (start solver) session
      (fun _ after => after.isCached = false → ∃ target, after.link.live = some target)
      fun _ _ => True := by
  apply ends_onLink
  apply ends_bind
  apply ends_get
  split
  · exact ends_throw trivial
  · rename_i equipped
    split
    · exact Link.live_of_instantiate.mono (fun _ _ created _ => created) fun _ _ _ => trivial
    · rename_i unequipped
      apply ends_pure
      intro direct
      have absent : session.link.factory.isNone = true := by simpa using unequipped
      have mode : session.link.mode = .direct := mode_of_direct direct
      exact absurd ⟨mode, absent⟩ equipped

theorem Opened.attached (opened : Opened solver session) (direct : session.isCached = false) :
    ∃ target, Attached target session := by
  have unrecorded := opened.unrecorded
  cases opened with
  | start configuration world opening done =>
    have starts : Ends (opening.action solver) (idle configuration world)
        (fun _ after => after.isCached = false → ∃ target, after.link.live = some target)
        fun _ _ => True :=
      ends_opening opening (fun _ => trivial) fun model events => live_of_start _
    obtain ⟨target, live⟩ := starts.of_ok done direct
    exact ⟨target, direct, live, unrecorded⟩

/-! ## Operations -/

section Operations

variable (attached : Attached target session)
include attached

theorem attached_refused {action : Model Float → Link.Action World Factory Instance α}
    (refused : ∃ cause, action session.model session.link = .error cause session.link) :
    Ends (onLink action) session (fun _ after => Attached target after)
      fun _ after => Attached target after := by
  obtain ⟨cause, failed⟩ := refused
  apply ends_onLink
  unfold Ends
  rw [failed]
  exact attached

/-- Forgetting the record forgets nothing. -/
theorem Attached.withoutRecord : Attached target session.withoutRecord :=
  ⟨attached.direct, attached.live, rfl⟩

theorem attached_lifecycle {action : Model Float → Link.Action World Factory Instance Unit}
    (refused : ∃ cause, action session.model session.link = .error cause session.link) :
    Ends (do forgetRecord; onLink action) session (fun _ after => Attached target after)
      fun _ after => Attached target after :=
  ends_bind (ends_modify (attached_refused attached.withoutRecord refused))

theorem attached_consults {after : Session World Factory Instance}
    (consults : Consults solver session after) : Attached target after := by
  induction consults with
  | refl => exact attached
  | tail _ glance inductionHypothesis =>
    cases glance with
    | link live glance =>
      cases glance with
      | get wanted => exact inductionHypothesis.relink rfl rfl
      | report event => exact inductionHypothesis.relink rfl rfl

theorem attached_edit (change : Model.Edit Float) :
    Ends (edit solver change) session (fun _ after => Attached target after)
      fun _ after => Attached target after := by
  have moves : Moves (Preserves (Attached target)) (forward solver change) :=
    moves_forward (fun _ _ held => held.relink rfl rfl) change
  apply ends_bind
  apply ends_get
  rw [attached.direct, if_neg (by decide)]
  exact moves.preserved attached

theorem attached_optimize :
    Ends (optimize solver) session (fun _ after => Attached target after)
      fun _ after => Attached target after := by
  have moves : Moves (Preserves (Attached target)) (runSolver solver) :=
    moves_callLive (fun _ _ held => held.relink rfl rfl) solver.optimize
  apply ends_bind
  apply ends_modify
  apply ends_bind
  apply ends_get
  show Ends (if session.isCached = true then _ else _) session.withoutRecord _ _
  rw [attached.direct, if_neg (by decide)]
  apply ends_bind
  refine (moves.preserved attached.withoutRecord).mono ?_ fun _ _ held => held
  exact fun _ _ held => ends_modify (held.relink rfl rfl)

theorem skips_prepare : prepareIfAutomatic solver session = .ok () session := by
  have mode := mode_of_direct attached.direct
  show (if session.link.mode = .automatic then _ else _ :
    Action World Factory Instance Unit) session = _
  rw [mode, if_neg (by decide)]
  rfl

theorem attached_backendIndex (entity : EntityRef) :
    Ends (backendIndex solver entity) session (fun _ after => Attached target after)
      fun _ after => Attached target after := by
  unfold backendIndex Ends
  rw [bind_of_ok (skips_prepare attached)]
  apply ends_onLink
  unfold Ends Link.backendIndex
  cases session.link.indexOf session.model entity <;> exact attached

theorem attached_entityOf (index : IndexRef) :
    Ends (entityOf solver index) session (fun _ after => Attached target after)
      fun _ after => Attached target after := by
  unfold entityOf Ends
  rw [bind_of_ok (skips_prepare attached)]
  apply ends_onLink
  unfold Ends Link.entityBehind
  cases session.link.entityOf session.model index <;> exact attached

/-- Every operation keeps the session attached, in whichever way it ends. -/
theorem attached_perform (operation : Operation Factory) :
    Ends (perform solver operation) session (fun _ after => Attached target after)
      fun _ after => Attached target after := by
  have direct := mode_of_direct attached.direct
  cases operation with
  | edit change =>
    apply ends_bind
    refine (attached_edit attached change).mono ?_ fun _ _ held => held
    intro created after held
    cases created <;> exact ends_pure held
  | ask question =>
    apply ends_bind
    apply ends_get
    split
    · exact ends_pure attached
    · exact ends_throw attached
  | attach factory =>
    exact ends_done (attached_lifecycle attached ⟨_, Link.requireCached_of_direct direct _ _⟩)
  | reattach =>
    exact ends_done (attached_lifecycle attached ⟨_, Link.requireCached_of_direct direct _ _⟩)
  | detach =>
    exact ends_done (attached_lifecycle attached ⟨_, Link.requireCached_of_direct direct _ _⟩)
  | setFactory factory =>
    exact ends_done (attached_lifecycle attached ⟨_, Link.requireCached_of_direct direct _ _⟩)
  | sync =>
    exact ends_done (attached_refused attached ⟨_, Link.requireCached_of_direct direct _ _⟩)
  | optimize => exact ends_done (attached_optimize attached)
  | optimizeWith factory =>
    apply ends_done
    apply ends_bind
    apply ends_get
    rw [attached.direct, if_pos (by decide)]
    exact ends_throw attached
  | backendIndex entity =>
    exact ends_bind ((attached_backendIndex attached entity).mono (fun _ _ held => ends_pure held)
      fun _ _ held => held)
  | entityOf index =>
    exact ends_bind ((attached_entityOf attached index).mono (fun _ _ held => ends_pure held)
      fun _ _ held => held)
  | read result =>
    exact (consults_readResult result session).mono
      (fun _ _ consults => attached_consults attached consults)
      fun _ _ consults => attached_consults attached consults

theorem attached_finish (operations : List (Operation Factory)) :
    Attached target (finish solver session operations) := by
  induction operations generalizing session with
  | nil => exact attached
  | cons operation others inductionHypothesis =>
    exact inductionHypothesis (ends_stateAfter.mp (attached_perform attached operation))

end Operations

end Session

end ConicModel
