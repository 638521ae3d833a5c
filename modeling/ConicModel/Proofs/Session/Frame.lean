import ConicModel.Proofs.Model.Evolution
import ConicModel.Proofs.Session.Management

/-!
Contract: what the operations of a session do to its model and its record.

Owns:
- `Link.Steady` and `Session.Kept`, the parts that managing the solver leaves alone;
- `Session.Edited`, what a change of the model touches;
- what is written when a solve succeeds, by what is collected, and `Session.Solved`, the case of
  generations;
- the kinds of operations, each with what it does in these terms.

Does not own: runs of several operations.
-/

namespace ConicModel

variable {World Factory Instance α : Type}

structure Link.Steady (before after : Link World Factory Instance) : Prop where
  mode : after.mode = before.mode
  settings : after.settings = before.settings

instance : IsPreorder (Link World Factory Instance) Link.Steady where
  refl _ := ⟨rfl, rfl⟩
  trans _ _ _ first second :=
    ⟨second.mode.trans first.mode, second.settings.trans first.settings⟩

theorem Link.Manages.steady {solver : Solver World Factory Instance}
    {before after : Link World Factory Instance} (manages : Manages solver before after) :
    Steady before after := by
  induction manages with
  | refl => exact refl_of Steady before
  | tail _ touch ih => cases touch <;> exact ⟨ih.mode, ih.settings⟩

namespace Session

/-! ## Kinds of operations -/

def Operation.isLifecycle : Operation Factory → Bool
  | .attach _ | .reattach | .detach | .setFactory _ => true
  | _ => false

def Operation.isSolve : Operation Factory → Bool
  | .optimize | .optimizeWith _ => true
  | _ => false

/-- Whether the operation neither changes the model, nor replaces the solver, nor solves. -/
def Operation.isPlain : Operation Factory → Bool
  | .ask _ | .sync | .backendIndex _ | .entityOf _ | .read _ => true
  | _ => false

theorem Operation.kinds (operation : Operation Factory) :
    (∃ change, operation = .edit change) ∨ operation.isPlain = true ∨
      operation.isLifecycle = true ∨ operation = .optimize ∨
      ∃ factory, operation = .optimizeWith factory := by
  cases operation with
  | edit change => exact .inl ⟨change, rfl⟩
  | ask _ | sync | backendIndex _ | entityOf _ | read _ => exact .inr (.inl rfl)
  | attach _ | reattach | detach | setFactory _ => exact .inr (.inr (.inl rfl))
  | optimize => exact .inr (.inr (.inr (.inl rfl)))
  | optimizeWith factory => exact .inr (.inr (.inr (.inr ⟨factory, rfl⟩)))

theorem Operation.not_lifecycle_of_solve {operation : Operation Factory}
    (solve : operation.isSolve = true) : operation.isLifecycle = false := by
  cases operation <;> first | rfl | cases solve

theorem Operation.of_plain {operation : Operation Factory} (plain : operation.isPlain = true) :
    operation.isLifecycle = false ∧ operation.isSolve = false := by
  cases operation <;> first | exact ⟨rfl, rfl⟩ | cases plain

/-- An operation that is plain manages the solver and does nothing else. -/
theorem manages_perform {solver : Solver World Factory Instance} {operation : Operation Factory}
    (plain : operation.isPlain = true) : Moves (Manages solver) (perform solver operation) := by
  cases operation with
  | ask question => exact manages_ask _ _
  | sync => exact manages_done (manages_onLink Link.manages_sync)
  | backendIndex entity => exact moves_map (manages_backendIndex entity)
  | entityOf index => exact moves_map (manages_entityOf index)
  | read result => exact manages_readResult result
  | _ => cases plain

/-! ## What managing keeps -/

structure Kept (before after : Session World Factory Instance) : Prop where
  model : after.model = before.model
  record : after.record = before.record
  link : Link.Steady before.link after.link

instance : IsPreorder (Session World Factory Instance) Kept where
  refl session := ⟨rfl, rfl, refl_of Link.Steady session.link⟩
  trans _ _ _ first second :=
    ⟨second.model.trans first.model, second.record.trans first.record,
      trans_of Link.Steady first.link second.link⟩

theorem Kept.isCached {before after : Session World Factory Instance} (kept : Kept before after) :
    after.isCached = before.isCached :=
  congrArg Mode.isCached kept.link.mode

section Kept

variable {solver : Solver World Factory Instance}

theorem Manages.kept {before after : Session World Factory Instance}
    (manages : Manages solver before after) : Kept before after := by
  obtain ⟨link, rfl, moved⟩ := manages
  exact ⟨rfl, rfl, moved.steady⟩

theorem moves_callLive
    {related : Session World Factory Instance → Session World Factory Instance → Prop}
    [IsPreorder (Session World Factory Instance) related]
    (called : ∀ (session : Session World Factory Instance) world,
      related session { session with link := { session.link with world := world } })
    (reply : Instance → Reply World α) :
    Moves related (callLive reply : Action World Factory Instance α) := by
  intro session
  apply ends_onLink
  apply ends_bind
  apply ends_bind
  apply ends_get
  split
  · exact ends_pure (Link.ends_call (ends_stateAfter.mpr (called session _)))
  · exact ends_throw (refl_of related session)

theorem kept_callLive (reply : Instance → Reply World α) :
    Moves Kept (callLive reply : Action World Factory Instance α) :=
  moves_callLive (fun _ _ => ⟨rfl, rfl, rfl, rfl⟩) reply

/-- A change that is handed over is a call of the live instance, or nothing. -/
theorem moves_forward
    {related : Session World Factory Instance → Session World Factory Instance → Prop}
    [IsPreorder (Session World Factory Instance) related]
    (called : ∀ (session : Session World Factory Instance) world,
      related session { session with link := { session.link with world := world } })
    (edit : Model.Edit Float) : Moves related (forward solver edit) := by
  have calls : ∀ {γ : Type} (reply : Instance → Reply World γ) (answer : γ → Option EntityRef),
      Moves related (do
        let value ← callLive reply
        return answer value : Action World Factory Instance (Option EntityRef)) :=
    fun reply _ => moves_bind (moves_callLive called reply) fun _ => moves_pure _
  unfold forward
  split
  · exact calls _ _
  · split
    · exact moves_throw _
    · exact calls _ _
  · split
    · exact moves_throw _
    · exact calls _ _
  · exact calls _ _
  · exact calls _ _
  · exact calls _ _
  · exact calls _ _
  · exact calls _ _
  · exact moves_throw _

theorem kept_forward (edit : Model.Edit Float) : Moves Kept (forward solver edit) :=
  moves_forward (fun _ _ => ⟨rfl, rfl, rfl, rfl⟩) edit

end Kept

/-! ## Changes of the model -/

structure Edited (before after : Session World Factory Instance) : Prop where
  model : Model.Evolves before.model after.model
  record : after.record = before.record
  link : ∃ events, after.link = { before.link with events := events }

theorem Edited.steady {before after : Session World Factory Instance}
    (edited : Edited before after) : Link.Steady before.link after.link := by
  obtain ⟨events, same⟩ := edited.link
  rw [same]
  exact ⟨rfl, rfl⟩

theorem edited_editModel (edit : Model.Edit Float) :
    Moves Edited (editModel edit : Action World Factory Instance (Option EntityRef)) := by
  intro session
  apply ends_bind
  apply ends_get
  apply ends_bind
  apply ends_modify
  split
  · exact ends_throw ⟨.refl _, rfl, _, rfl⟩
  · rename_i outcome applied
    apply ends_bind
    apply ends_modify
    exact ends_pure ⟨Model.evolves_of_apply applied, rfl, _, rfl⟩

theorem edit_of_cached {solver : Solver World Factory Instance}
    {session : Session World Factory Instance} (cached : session.isCached = true)
    (change : Model.Edit Float) : edit solver change session = editModel change session := by
  show (if session.isCached = true then editModel change else forward solver change) session = _
  rw [if_pos cached]

/-! ## Operations that forget the record -/

def withoutRecord (session : Session World Factory Instance) : Session World Factory Instance :=
  { session with record := none }

section Forgets

variable {solver : Solver World Factory Instance} {session : Session World Factory Instance}

theorem ends_done {action : Action World Factory Instance Unit}
    {returned : Session World Factory Instance → Prop}
    {refused : Error → Session World Factory Instance → Prop}
    (ends : Ends action session (fun _ after => returned after) refused) :
    Ends (do action; return Answer.done) session (fun _ after => returned after) refused :=
  ends_bind (ends.mono (fun _ _ holds => ends_pure holds) fun _ _ holds => holds)

theorem forgets_onLink {action : Model Float → Link.Action World Factory Instance α}
    (manages : ∀ model, Moves (Link.Manages solver) (action model)) :
    Ends (do forgetRecord; onLink action) session
      (fun _ after => Manages solver session.withoutRecord after)
      fun _ after => Manages solver session.withoutRecord after :=
  ends_bind (ends_modify (manages_onLink manages session.withoutRecord))

theorem forgets_attach (factory : Factory) :
    Ends (attach solver factory) session
      (fun _ after => Manages solver session.withoutRecord after)
      fun _ after => Manages solver session.withoutRecord after :=
  forgets_onLink fun _ => Link.manages_attach factory

/-- An operation that replaces the solver forgets the record and manages the solver. -/
theorem forgets_perform {operation : Operation Factory} (lifecycle : operation.isLifecycle = true) :
    Ends (perform solver operation) session
      (fun _ after => Manages solver session.withoutRecord after)
      fun _ after => Manages solver session.withoutRecord after := by
  cases operation with
  | attach factory => exact ends_done (forgets_attach factory)
  | reattach => exact ends_done (forgets_onLink fun _ => Link.manages_reattach)
  | detach => exact ends_done (forgets_onLink fun _ => Link.manages_detach)
  | setFactory factory => exact ends_done (forgets_onLink fun _ => Link.manages_setFactory factory)
  | _ => cases lifecycle

end Forgets

/-! ## Solving -/

/-- The record of a solve of the given model, and everything else the same. -/
structure Solved (before after : Session World Factory Instance) : Prop where
  model : after.model = before.model
  record : ∃ found, after.record = some found ∧ found.generation = before.model.generation
  link : Link.Steady before.link after.link

theorem generation_of_collect {solver : Solver World Factory Instance} (target : Instance)
    (model : Model Float) (map : IndexMap) (link : Link World Factory Instance) :
    Ends (Link.collect solver target model map) link
      (fun found _ => found.generation = model.generation) fun _ _ => True := by
  apply ends_then
  intro summary _
  have rest : ∀ primals middle, Ends (do
      let duals ← if summary.dualStatus.hasValues then
          Link.duals solver target map model.constraints.entries
        else pure []
      return (⟨model.generation, summary, primals, duals⟩ : ResultRecord)) middle
      (fun found _ => found.generation = model.generation) fun _ _ => True := by
    intro primals middle
    dsimp only
    split
    · exact ends_then fun _ _ => ends_pure rfl
    · exact ends_then fun _ _ => ends_pure rfl
  dsimp only
  split
  · exact ends_then rest
  · exact ends_then rest

section Collected

variable {solver : Solver World Factory Instance} {session : Session World Factory Instance}
  {written : Model Float → ResultRecord → Prop}
  (collects : ∀ target model map link, Ends (Link.collect solver target model map) link
    (fun found _ => written model found) fun _ _ => True)
include collects

theorem ends_collect_of_link :
    Ends (collect solver) session (fun found _ => written session.model found)
      fun _ _ => True := by
  apply ends_onLink
  apply ends_then
  intro link middle
  split
  · exact ends_throw trivial
  · exact ends_then fun target after => collects target _ _ after

/-- Solving writes a record of what is collected, and keeps everything else. -/
theorem records_optimize (cached : session.isCached = true) :
    Ends (optimize solver) session
      (fun _ after => after.model = session.model ∧
        (∃ found, after.record = some found ∧ written session.model found) ∧
        Link.Steady session.link after.link)
      fun _ after => Kept session.withoutRecord after := by
  apply ends_bind
  apply ends_modify
  apply ends_bind
  apply ends_get
  show Ends (if session.isCached = true then _ else _) session.withoutRecord _ _
  rw [if_pos cached]
  apply ends_bind
  refine (manages_onLink Link.manages_prepare session.withoutRecord).mono ?_ fun _ _ moved =>
    moved.kept
  intro _ prepared managed
  have keptPrepared := managed.kept
  apply ends_bind
  refine (kept_callLive _ prepared).mono ?_ fun _ _ kept => trans_of Kept keptPrepared kept
  intro _ ran keptRan
  have kept := trans_of Kept keptPrepared keptRan
  apply ends_bind
  refine ((manages_collect ran).and (ends_collect_of_link collects)).mono ?_ fun _ _ ended =>
    trans_of Kept kept ended.1.kept
  rintro found collected ⟨managedCollected, holds⟩
  have whole := trans_of Kept kept managedCollected.kept
  apply ends_bind
  apply ends_modify
  apply ends_modify
  have sameModel : ran.model = session.model := kept.model
  rw [sameModel] at holds
  exact ⟨whole.model, ⟨found, rfl, holds⟩, whole.link.mode, whole.link.settings⟩

/-- Solving with a factory is refused at once, or it is attaching and solving. -/
theorem records_optimizeWith (cached : session.isCached = true) (factory : Factory) :
    Ends (optimizeWith solver factory) session
      (fun _ after => after.model = session.model ∧
        (∃ found, after.record = some found ∧ written session.model found) ∧
        Link.Steady session.link after.link)
      fun cause after => (∃ fault, cause = .configuration fault) ∧ after = session ∨
        Kept session.withoutRecord after := by
  apply ends_bind
  apply ends_get
  rw [cached, if_neg (by decide)]
  split
  · exact ends_throw (.inl ⟨⟨_, rfl⟩, rfl⟩)
  · apply ends_bind
    refine (forgets_attach factory).mono ?_ fun _ _ moved => .inr moved.kept
    intro _ attached managedAttached
    apply ends_bind
    refine (manages_onLink Link.manages_sync attached).mono ?_ fun _ _ moved =>
      .inr (trans_of Kept managedAttached.kept moved.kept)
    intro _ synced managedSynced
    have kept := trans_of Kept managedAttached.kept managedSynced.kept
    have sameModel : synced.model = session.model := kept.model
    refine (records_optimize collects (kept.isCached.trans cached)).mono ?_ ?_
    · rintro _ after ⟨model, record, link⟩
      rw [sameModel] at model record
      exact ⟨model, record, trans_of Link.Steady kept.link link⟩
    · intro _ after forgotten
      exact .inr ⟨forgotten.model.trans kept.model, forgotten.record,
        trans_of Link.Steady kept.link forgotten.link⟩

end Collected

section Solved

variable {solver : Solver World Factory Instance} {session : Session World Factory Instance}
  (cached : session.isCached = true)
include cached

theorem solved_optimize :
    Ends (optimize solver) session (fun _ after => Solved session after)
      fun _ after => Kept session.withoutRecord after :=
  (records_optimize generation_of_collect cached).mono
    (fun _ _ ⟨model, record, link⟩ => ⟨model, record, link⟩) fun _ _ kept => kept

theorem solved_optimizeWith (factory : Factory) :
    Ends (optimizeWith solver factory) session (fun _ after => Solved session after)
      fun cause after => (∃ fault, cause = .configuration fault) ∧ after = session ∨
        Kept session.withoutRecord after :=
  (records_optimizeWith generation_of_collect cached factory).mono
    (fun _ _ ⟨model, record, link⟩ => ⟨model, record, link⟩) fun _ _ ended => ended

end Solved

/-! ## The mode and the settings -/

def Steady (before after : Session World Factory Instance) : Prop :=
  Link.Steady before.link after.link

instance : IsPreorder (Session World Factory Instance) Steady where
  refl session := refl_of Link.Steady session.link
  trans _ _ _ first second := trans_of Link.Steady first second

section Steady

variable {solver : Solver World Factory Instance}

theorem steady_manages {action : Action World Factory Instance α}
    (manages : Moves (Manages solver) action) : Moves Steady action :=
  manages.mono fun _ _ moved => moved.kept.link

theorem steady_runSolver : Moves Steady (runSolver solver) :=
  (kept_callLive _).mono fun _ _ kept => kept.link

theorem steady_record (record : Session World Factory Instance → Option ResultRecord) :
    Moves Steady (modify fun session => { session with record := record session } :
      Action World Factory Instance Unit) :=
  moves_modify fun session => refl_of Link.Steady session.link

theorem steady_reportAll (events : List Event) :
    Moves Steady (reportAll events : Action World Factory Instance Unit) :=
  moves_modify fun _ => ⟨rfl, rfl⟩

theorem steady_edit (change : Model.Edit Float) : Moves Steady (edit solver change) := by
  apply moves_bind moves_get
  intro session
  split
  · exact (edited_editModel change).mono fun _ _ edited => edited.steady
  · exact (kept_forward change).mono fun _ _ kept => kept.link

theorem steady_optimize : Moves Steady (optimize solver) := by
  apply moves_bind (steady_record fun _ => none)
  intro _
  apply moves_bind moves_get
  intro session
  dsimp only
  split
  · apply moves_bind (steady_manages (manages_onLink Link.manages_prepare))
    intro _
    apply moves_bind steady_runSolver
    intro _
    apply moves_bind (steady_manages manages_collect)
    intro record
    apply moves_bind (steady_reportAll _)
    exact fun _ => steady_record fun _ => some record
  · apply moves_bind steady_runSolver
    exact fun _ => steady_reportAll _

theorem steady_optimizeWith (factory : Factory) : Moves Steady (optimizeWith solver factory) := by
  apply moves_bind moves_get
  intro session
  split
  · exact moves_throw _
  · split
    · exact moves_throw _
    · apply moves_bind
      · intro session
        exact (forgets_attach factory).mono (fun _ _ moved => moved.kept.link)
          fun _ _ moved => moved.kept.link
      · intro _
        apply moves_bind (steady_manages (manages_onLink Link.manages_sync))
        exact fun _ => steady_optimize

theorem steady_perform (operation : Operation Factory) :
    Moves Steady (perform solver operation) := by
  rcases operation.kinds with ⟨change, rfl⟩ | plain | lifecycle | rfl | ⟨factory, rfl⟩
  · apply moves_bind (steady_edit change)
    intro created
    cases created <;> exact moves_pure _
  · exact steady_manages (manages_perform plain)
  · intro session
    exact (forgets_perform lifecycle).mono (fun _ _ moved => moved.kept.link)
      fun _ _ moved => moved.kept.link
  · exact moves_bind steady_optimize fun _ => moves_pure _
  · exact moves_bind (steady_optimizeWith factory) fun _ => moves_pure _

end Steady

end Session

end ConicModel
