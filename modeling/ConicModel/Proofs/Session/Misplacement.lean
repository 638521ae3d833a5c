import ConicModel.Proofs.Session.Causes
import ConicModel.Proofs.Session.Direct
import ConicModel.Proofs.Session.Independence
import ConicModel.Proofs.Session.Parity
import ConicModel.Proofs.Session.Staleness

/-!
Contract: operations that do not go together with the mode or the configured factory.

Owns:
- the operations that are about the model itself;
- the operations that are refused for a fault of configuration, in each mode;
- the fact that such a refusal leaves the session and the transcript as they were.

Does not own: refusals for other causes.

The record is forgotten before the guard of the link refuses an operation.  That this leaves
nothing behind is due to an invariant: without a model there is never a record.
-/

namespace ConicModel

variable {World Factory Instance α : Type}

/-- Whether the change is one of a model only: no solver can take it. -/
def Model.Edit.needsModel {K : Type} : Model.Edit K → Bool
  | .addVariable _ _ | .addConstraint _ | .setObjective _ _ | .clearObjective => false
  | .remove _ | .setName _ _ => false
  | _ => true

namespace Session

/-! ## Operations without a place -/

def Operation.needsModel : Operation Factory → Bool
  | .edit change => change.needsModel
  | .ask _ => true
  | _ => false

section Placed

variable {solver : Solver World Factory Instance} {session : Session World Factory Instance}

theorem blames_forward {change : Model.Edit Float} (handed : change.needsModel = false) :
    Blames Error.IsOrdinary (forward solver change) := by
  have calls : ∀ {γ : Type} (reply : Instance → Reply World γ) (answer : γ → Option EntityRef),
      Blames Error.IsOrdinary (do
        let value ← callLive reply
        return answer value : Action World Factory Instance (Option EntityRef)) :=
    fun reply _ => blames_bind
      ((blames_callLive reply).mono fun _ outside => outside.isOrdinary) fun _ => blames_pure _
  cases change with
  | addVariable bounds category => exact calls _ _
  | addConstraint constraint =>
    unfold forward
    dsimp only
    split
    · exact blames_throw trivial
    · exact calls _ _
  | setObjective sense expr =>
    unfold forward
    dsimp only
    split
    · exact blames_throw trivial
    · exact calls _ _
  | clearObjective => exact calls _ _
  | remove entity => cases entity <;> exact calls _ _
  | setName entity name => cases entity <;> exact calls _ _
  | _ => cases handed

theorem ordinary_edit (change : Model.Edit Float)
    (placed : session.isCached = true ∨ change.needsModel = false) :
    Ends (edit solver change) session (fun _ _ => True) fun cause _ => cause.IsOrdinary := by
  apply ends_bind
  apply ends_get
  split
  · exact blames_editModel change session
  · rename_i direct
    exact blames_forward (placed.resolve_left direct) session

section Cached

variable (cached : session.isCached = true)
include cached

theorem outside_onLink {action : Model Float → Link.Action World Factory Instance α}
    (outside : ∀ {link : Link World Factory Instance}, link.mode ≠ .direct →
      Ends (action session.model) link (fun _ _ => True) fun cause _ => cause.IsOutside) :
    Ends (onLink action) session (fun _ _ => True) fun cause _ => cause.IsOutside :=
  ends_onLink (outside (not_direct_of_cached cached))

theorem outside_forgetting {action : Model Float → Link.Action World Factory Instance Unit}
    (outside : ∀ {link : Link World Factory Instance}, link.mode ≠ .direct →
      Ends (action session.model) link (fun _ _ => True) fun cause _ => cause.IsOutside) :
    Ends (do forgetRecord; onLink action) session (fun _ _ => True)
      fun cause _ => cause.IsOutside :=
  ends_bind (ends_modify (ends_onLink (outside (not_direct_of_cached cached))))

/-- With a model and without a factory, solving with one attaches, copies and solves. -/
theorem proper_optimizeWith (factory : Factory) (unequipped : session.link.factory.isSome = false) :
    Ends (optimizeWith solver factory) session (fun _ _ => True)
      fun cause _ => cause.IsProper := by
  apply ends_bind
  apply ends_get
  rw [cached, if_neg (by decide), unequipped, if_neg (by decide)]
  apply ends_bind
  refine ((outside_forgetting cached fun ready => Link.outside_attach ready factory).and
    (forgets_attach factory)).mono ?_ fun _ _ ended => ended.1.isProper
  rintro _ attached ⟨_, managed⟩
  have stillCached : attached.isCached = true := managed.kept.isCached.trans cached
  apply ends_bind
  refine (outside_onLink stillCached fun ready => Link.outside_sync ready attached.model).mono ?_
    fun _ _ outside => outside.isProper
  exact fun _ synced _ => blames_optimize synced

/-- With a model, an operation that does not solve has no other causes than ordinary ones. -/
theorem ordinary_perform {operation : Operation Factory} (unsolved : operation ≠ .optimize)
    (unsolvedWith : ∀ factory, operation ≠ .optimizeWith factory) :
    Ends (perform solver operation) session (fun _ _ => True) fun cause _ => cause.IsOrdinary := by
  have done : ∀ {action : Action World Factory Instance Unit},
      Ends action session (fun _ _ => True) (fun cause _ => cause.IsOutside) →
      Ends (do action; return Answer.done) session (fun _ _ => True)
        fun cause _ => cause.IsOrdinary :=
    fun ends => ends_done (ends.mono (fun _ _ _ => trivial) fun _ _ outside => outside.isOrdinary)
  cases operation with
  | edit change =>
    apply ends_bind
    refine (ordinary_edit change (.inl cached)).mono ?_ fun _ _ ordinary => ordinary
    intro created after _
    cases created <;> exact ends_pure trivial
  | ask question =>
    apply ends_bind
    apply ends_get
    rw [cached, if_pos rfl]
    exact ends_pure trivial
  | attach factory =>
    exact done (outside_forgetting cached fun ready => Link.outside_attach ready factory)
  | reattach => exact done (outside_forgetting cached Link.outside_reattach)
  | detach => exact done (outside_forgetting cached Link.outside_detach)
  | setFactory factory =>
    exact done (outside_forgetting cached fun ready => Link.outside_setFactory ready factory)
  | sync => exact done (outside_onLink cached fun ready => Link.outside_sync ready _)
  | optimize => exact absurd rfl unsolved
  | optimizeWith factory => exact absurd rfl (unsolvedWith factory)
  | backendIndex entity => exact blames_map (blames_backendIndex entity) session
  | entityOf index => exact blames_map (blames_entityOf index) session
  | read result => exact blames_readResult result session

/-- With a model, the one fault is a second factory. -/
theorem proper_perform {operation : Operation Factory}
    (placed : ∀ factory, operation = .optimizeWith factory →
      session.link.factory.isSome = false) :
    Ends (perform solver operation) session (fun _ _ => True) fun cause _ => cause.IsProper := by
  by_cases solves : operation = .optimize ∨ ∃ factory, operation = .optimizeWith factory
  · rcases solves with rfl | ⟨factory, rfl⟩
    · exact ends_done (blames_optimize session)
    · exact ends_done (proper_optimizeWith cached factory (placed factory rfl))
  · rw [not_or, not_exists] at solves
    exact (ordinary_perform cached solves.1 solves.2).mono (fun _ _ _ => trivial)
      fun _ _ ordinary => ordinary.isProper

/-- Where there is a factory, solving with another is refused before anything is done. -/
theorem refused_optimizeWith (factory : Factory) (equipped : session.link.factory.isSome = true) :
    perform solver (.optimizeWith factory) session =
      .error (.configuration .factoryConfigured) session := by
  refine bind_of_error ?_
  show (if (!session.isCached) = true then _ else if session.link.factory.isSome = true then _
    else _ : Action World Factory Instance Unit) session = _
  rw [cached, if_neg (by decide), if_pos equipped]
  rfl

end Cached

/-- Without a model, changes that the solver can take, solving, indices and reads are in their
place. -/
theorem proper_perform_direct {operation : Operation Factory}
    (stays : operation.isLifecycle = false) (uncopied : operation ≠ .sync)
    (unequipped : ∀ factory, operation ≠ .optimizeWith factory)
    (needless : operation.needsModel = false) :
    Ends (perform solver operation) session (fun _ _ => True) fun cause _ => cause.IsProper := by
  have asked : ∀ {action : Action World Factory Instance Answer},
      Ends action session (fun _ _ => True) (fun cause _ => cause.IsOrdinary) →
      Ends action session (fun _ _ => True) fun cause _ => cause.IsProper :=
    fun ends => ends.mono (fun _ _ _ => trivial) fun _ _ ordinary => ordinary.isProper
  cases operation with
  | edit change =>
    apply ends_bind
    refine (ordinary_edit change (.inr needless)).mono ?_ fun _ _ ordinary => ordinary.isProper
    intro created after _
    cases created <;> exact ends_pure trivial
  | optimize => exact ends_done (blames_optimize session)
  | backendIndex entity => exact asked (blames_map (blames_backendIndex entity) session)
  | entityOf index => exact asked (blames_map (blames_entityOf index) session)
  | read result => exact asked (blames_readResult result session)
  | sync => exact absurd rfl uncopied
  | optimizeWith factory => exact absurd rfl (unequipped factory)
  | ask _ => cases needless
  | _ => cases stays

section Direct

theorem onLink_of_refused {action : Model Float → Link.Action World Factory Instance α}
    {cause : Error} (refused : action session.model session.link = .error cause session.link) :
    onLink action session = .error cause session := by
  unfold onLink
  rw [refused]

/-- The record is forgotten before the refusal, but there is none. -/
theorem forgetting_of_refused (unrecorded : session.record = none)
    {action : Model Float → Link.Action World Factory Instance Unit} {cause : Error}
    (refused : action session.model session.link = .error cause session.link) :
    (do forgetRecord; onLink action : Action World Factory Instance Unit) session =
      .error cause session := by
  have same : session.withoutRecord = session := by
    unfold withoutRecord
    rw [← unrecorded]
  have forgotten : forgetRecord session = .ok () session :=
    congrArg (EStateM.Result.ok ()) same
  exact (bind_of_ok forgotten).trans (onLink_of_refused refused)

theorem refused_edit (direct : session.isCached = false) {change : Model.Edit Float}
    (needs : change.needsModel = true) :
    edit solver change session =
      .error (.configuration (.needsModel (editName change))) session := by
  show (if session.isCached = true then editModel change else forward solver change) session = _
  rw [direct, if_neg (by decide)]
  cases change <;> first | rfl | cases needs

/-- Without a model and a record, an operation that needs a model, or would replace or fill the
solver, is refused before anything is done. -/
theorem refused_perform_direct (direct : session.isCached = false)
    (unrecorded : session.record = none) {operation : Operation Factory}
    (displaced : operation.isLifecycle = true ∨ operation = .sync ∨
      (∃ factory, operation = .optimizeWith factory) ∨ operation.needsModel = true) :
    ∃ fault, perform solver operation session = .error (.configuration fault) session := by
  have mode := mode_of_direct direct
  rcases displaced with lifecycle | rfl | ⟨factory, rfl⟩ | needs
  · cases operation with
    | attach | reattach | detach | setFactory =>
      exact ⟨_, bind_of_error (forgetting_of_refused unrecorded
        (Link.requireCached_of_direct mode _ _))⟩
    | _ => cases lifecycle
  · exact ⟨_, bind_of_error (onLink_of_refused (Link.requireCached_of_direct mode _ _))⟩
  · refine ⟨.factoryFixed, bind_of_error ?_⟩
    show (if (!session.isCached) = true then _ else _ : Action World Factory Instance Unit)
      session = _
    rw [direct, if_pos (by decide)]
    rfl
  · cases operation with
    | edit change => exact ⟨_, bind_of_error (refused_edit direct needs)⟩
    | ask question =>
      refine ⟨.needsModel question.word, ?_⟩
      show (if session.isCached = true then _ else _ : Action World Factory Instance Answer)
        session = _
      rw [direct, if_neg (by decide)]
      rfl
    | _ => cases needs

end Direct

/-- What decides whether an operation is in its place decides what comes of it. -/
theorem misplaced_iff {operation : Operation Factory} {displaced : Prop}
    (refused : displaced →
      ∃ fault, perform solver operation session = .error (.configuration fault) session)
    (proper : ¬ displaced →
      Ends (perform solver operation) session (fun _ _ => True) fun cause _ => cause.IsProper) :
    (∀ cause, (step solver session operation).outcome = .error cause →
      cause.kind = .configuration → (step solver session operation).after = session) ∧
    (Misplaced (step solver session operation).outcome ↔ displaced) := by
  by_cases place : displaced
  · obtain ⟨fault, failed⟩ := refused place
    have outcome : (step solver session operation).outcome = .error (.configuration fault) := by
      unfold step outcomeOf
      rw [failed]
    have after : (step solver session operation).after = session := by
      unfold step stateAfter
      rw [failed]
    exact ⟨fun _ _ _ => after, fun _ => place, fun _ => ⟨fault, outcome⟩⟩
  · have fit : ∀ cause, (step solver session operation).outcome = .error cause →
        cause.IsProper := by
      refine Step.of_ends (fun outcome _ => ∀ cause, outcome = .error cause → cause.IsProper) ?_
      refine (proper place).mono (fun _ _ _ => nofun) ?_
      rintro cause _ isProper _ ⟨⟩
      exact isProper
    refine ⟨fun cause outcome kind => ?_, fun ⟨fault, outcome⟩ => ?_, fun given => ?_⟩
    · obtain ⟨fault, rfl⟩ := Error.kind_eq_configuration_iff.mp kind
      exact absurd rfl (fit _ outcome fault)
    · exact absurd rfl (fit _ outcome fault)
    · exact absurd given place

theorem misplaced_of_cached (solver : Solver World Factory Instance)
    (cached : session.isCached = true) (operation : Operation Factory) :
    (∀ cause, (step solver session operation).outcome = .error cause →
      cause.kind = .configuration → (step solver session operation).after = session) ∧
    (Misplaced (step solver session operation).outcome ↔
      ∃ factory, operation = .optimizeWith factory ∧ session.link.factory.isSome = true) := by
  refine misplaced_iff ?_ fun placed => proper_perform cached fun factory same => ?_
  · rintro ⟨factory, rfl, equipped⟩
    exact ⟨_, refused_optimizeWith cached factory equipped⟩
  · exact Bool.eq_false_iff.mpr fun equipped => placed ⟨factory, same, equipped⟩

theorem misplaced_of_direct (solver : Solver World Factory Instance)
    (direct : session.isCached = false) (unrecorded : session.record = none)
    (operation : Operation Factory) :
    (∀ cause, (step solver session operation).outcome = .error cause →
      cause.kind = .configuration → (step solver session operation).after = session) ∧
    (Misplaced (step solver session operation).outcome ↔
      operation.isLifecycle = true ∨ operation = .sync ∨
        (∃ factory, operation = .optimizeWith factory) ∨ operation.needsModel = true) := by
  refine misplaced_iff (refused_perform_direct direct unrecorded) fun placed => ?_
  simp only [not_or, not_exists, Bool.not_eq_true] at placed
  obtain ⟨stays, uncopied, unequipped, needless⟩ := placed
  exact proper_perform_direct stays uncopied unequipped needless

/-- With a model, an operation that is out of place leaves the session as it is. -/
theorem after_of_misplaced (cached : session.isCached = true) {operation : Operation Factory}
    (misplaced : Misplaced (step solver session operation).outcome) :
    (step solver session operation).after = session := by
  obtain ⟨fault, outcome⟩ := misplaced
  exact (misplaced_of_cached solver cached operation).1 _ outcome rfl

end Placed

/-- An operation that is refused as a fault of configuration leaves the whole session as it was,
the transcript of calls included, in every mode.  With a model the fault is solving with a
factory where there is one.  Without a model it is exactly replacing, dropping or filling the
solver, solving with a factory, and whatever needs a model. -/
theorem misplaced_without_effect {solver : Solver World Factory Instance}
    {session : Recorded World Factory Instance} (opened : Opened solver.recorded session)
    (operations : List (Operation Factory)) (operation : Operation Factory) :
    let before := finish solver.recorded session operations
    let next := step solver.recorded before operation
    (∀ cause, next.outcome = .error cause → cause.kind = .configuration → next.after = before) ∧
    (before.isCached = true →
      (Misplaced next.outcome ↔
        ∃ factory, operation = .optimizeWith factory ∧ before.link.factory.isSome = true)) ∧
    (before.isCached = false →
      (Misplaced next.outcome ↔
        operation.isLifecycle = true ∨ operation = .sync ∨
          (∃ factory, operation = .optimizeWith factory) ∨ operation.needsModel = true)) := by
  intro before next
  cases cached : before.isCached with
  | true =>
    obtain ⟨harmless, decided⟩ := misplaced_of_cached solver.recorded cached operation
    exact ⟨harmless, fun _ => decided, nofun⟩
  | false =>
    have direct : session.isCached = false :=
      (isCached_finish session operations).symm.trans cached
    obtain ⟨target, attached⟩ := opened.attached direct
    have unrecorded : before.record = none := (attached_finish attached operations).unrecorded
    obtain ⟨harmless, decided⟩ :=
      misplaced_of_direct solver.recorded cached unrecorded operation
    exact ⟨harmless, nofun, fun _ => decided⟩

def equippedSession : Recorded Scripted.World String Scripted.Instance :=
  stateAfter (start Scripted.solver.recorded)
    (unplayed { factory := some "demo" } { scripts := [("demo", reportingScript)] })

/-- A session that has solved is asked to solve with another factory, and one without a model is
asked to detach its solver. -/
theorem misplaced_equippedSession :
    let solved := finish Scripted.solver.recorded equippedSession
      [.edit (.addVariable .free .continuous), .optimize]
    let handed := finish Scripted.solver.recorded forwardingSession
      [.edit (.addVariable .free .continuous)]
    (solved.isCached = true ∧ handed.isCached = false) ∧
    Misplaced (step Scripted.solver.recorded solved (.optimizeWith "other")).outcome ∧
    (step Scripted.solver.recorded solved (.optimizeWith "other")).after = solved ∧
    Misplaced (step Scripted.solver.recorded handed .detach).outcome ∧
    (step Scripted.solver.recorded handed .detach).after = handed := by
  intro solved handed
  have cached : solved.isCached = true := by decide +kernel
  have direct : handed.isCached = false := by decide +kernel
  have started : Opened Scripted.solver.recorded equippedSession :=
    .start { factory := some "demo" } { world := { scripts := [("demo", reportingScript)] } }
      .fresh rfl
  have forwarding : Opened Scripted.solver.recorded forwardingSession :=
    .start { mode := .direct, factory := some "demo" }
      { world := { scripts := [("demo", { direct := true })] } } .fresh rfl
  obtain ⟨harmless, decided, _⟩ := misplaced_without_effect started
    [.edit (.addVariable .free .continuous), .optimize] (.optimizeWith "other")
  obtain ⟨harmlessDirect, _, decidedDirect⟩ := misplaced_without_effect forwarding
    [.edit (.addVariable .free .continuous)] .detach
  obtain ⟨fault, outcome⟩ := (decided cached).mpr ⟨"other", rfl, by decide +kernel⟩
  obtain ⟨faultDirect, outcomeDirect⟩ := (decidedDirect direct).mpr (.inl rfl)
  exact ⟨⟨cached, direct⟩, ⟨fault, outcome⟩, harmless _ outcome rfl,
    ⟨faultDirect, outcomeDirect⟩, harmlessDirect _ outcomeDirect rfl⟩

end Session

end ConicModel
