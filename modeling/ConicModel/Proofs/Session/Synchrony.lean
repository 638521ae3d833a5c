import ConicModel.Proofs.Session.Lifespan
import ConicModel.Proofs.Session.Frame
import ConicModel.Solver.Scripted

/-!
Contract: in a session with a model, what the solver is asked to solve is the model as it is.

Owns:
- `Serves`, which says that an open instance holds a model;
- `Faithful`, which says that every solve along the way was of the model;
- the agreement of solver and model in every run of a session that keeps a model.

Does not own: when instances are created and closed.

Whether the instance is synced is derived from a generation, so the invariant of the link
turns the generation back into the content that was copied.
-/

namespace ConicModel

open Relation (ReflTransGen)
open Transcript

variable {World Factory Instance α : Type}

/-! ## Managing solves nothing -/

/-- Calls were added, and none of them solves or builds a model entity by entity. -/
def Quiet (before after : List (JournalEntry Factory)) : Prop :=
  ∃ added, after = before ++ added ∧
    ∀ entry ∈ added, entry.call.isSolve = false ∧ entry.call.isIncremental = false

theorem Quiet.refl (entries : List (JournalEntry Factory)) : Quiet entries entries :=
  ⟨[], (List.append_nil _).symm, by simp⟩

theorem Quiet.trans {first second third : List (JournalEntry Factory)} (left : Quiet first second)
    (right : Quiet second third) : Quiet first third := by
  obtain ⟨added, rfl, silent⟩ := left
  obtain ⟨others, rfl, othersSilent⟩ := right
  refine ⟨added ++ others, List.append_assoc _ _ _, ?_⟩
  intro entry member
  rcases List.mem_append.mp member with old | new
  · exact silent entry old
  · exact othersSilent entry new

theorem quiet_concat {entries : List (JournalEntry Factory)} {entry : JournalEntry Factory}
    (silent : entry.call.isSolve = false ∧ entry.call.isIncremental = false) :
    Quiet entries (entries ++ [entry]) :=
  ⟨[entry], rfl, List.forall_mem_singleton.mpr silent⟩

theorem quiet_recordOf {ε : Type} (target : Tracked Factory Instance)
    (action : Instance → EStateM ε World α) (call : Except ε α → Call)
    {journal : Journal World Factory}
    (silent : ∀ reply, (call reply).isSolve = false ∧ (call reply).isIncremental = false) :
    Quiet journal.entries (stateAfter (Journal.recordOf target action call) journal).entries := by
  obtain ⟨world, reply, same⟩ := Journal.stateAfter_recordOf target action call journal
  rw [same]
  exact quiet_concat (silent reply)

theorem Link.Touch.quiet {solver : Solver World Factory Instance}
    {before after : Link.Recorded World Factory Instance}
    (touch : Touch solver.recorded before after) :
    Quiet before.world.entries after.world.entries := by
  cases touch with
  | create factory =>
    obtain ⟨world, reply, same⟩ :=
      Journal.stateAfter_recordCreation factory (solver.create factory) before.world
    show Quiet _ (stateAfter (Journal.recordCreation factory (solver.create factory)) _).entries
    rw [same]
    exact quiet_concat ⟨rfl, rfl⟩
  | empty target => exact quiet_recordOf target solver.empty .empty fun _ => ⟨rfl, rfl⟩
  | copyModel target model =>
    exact quiet_recordOf target (fun inner => solver.copyModel inner model) (.copyModel model)
      fun _ => ⟨rfl, rfl⟩
  | get target wanted =>
    exact quiet_recordOf target (fun inner => solver.get inner wanted) (.get wanted) fun _ => ⟨rfl, rfl⟩
  | set target wanted value =>
    exact quiet_recordOf target (fun inner => solver.set inner wanted value) (.set wanted value)
      fun _ => ⟨rfl, rfl⟩
  | close target => exact quiet_concat ⟨rfl, rfl⟩
  | report events => exact .refl _
  | hold live map => exact .refl _
  | equip factory => exact .refl _

theorem Link.Manages.quiet {solver : Solver World Factory Instance}
    {before after : Link.Recorded World Factory Instance}
    (manages : Manages solver.recorded before after) :
    Quiet before.world.entries after.world.entries := by
  induction manages with
  | refl => exact .refl _
  | tail _ touch ih => exact ih.trans touch.quiet

/-! ## Serving a model -/

/-- Whether an open instance holds a model: the model it was last asked to copy was taken
over, its receipt could be paired with it, and it has the same content. -/
structure Transcript.Serves (entries : List (JournalEntry Factory)) (number : Nat)
    (model : Model Float) : Prop where
  unclosed : Unclosed entries number
  copied : ∃ copied receipt map, lastCopy? entries number = some (copied, .ok receipt) ∧
    IndexMap.build copied receipt = .ok map ∧ Model.SameContent copied model

namespace Session

variable {solver : Solver World Factory Instance}
  {session before after : Recorded World Factory Instance}

theorem not_direct_of_cached {session : Session World Factory Instance}
    (cached : session.isCached = true) : session.link.mode ≠ .direct := by
  intro direct
  unfold isCached at cached
  rw [direct] at cached
  cases cached

/-- While a session with a model is synced, the live instance holds the model. -/
theorem Sound.serves (sound : session.Sound) (cached : session.isCached = true)
    (synced : session.state = .synced) :
    ∃ target, session.link.live = some target ∧
      Serves session.entries target.number session.model := by
  obtain ⟨map, present, current⟩ :=
    Link.current_of_synced (not_direct_of_cached cached) synced
  obtain ⟨target, copied, receipt, live, last, built, evolves⟩ := sound.copied map present
  have generation := Link.generation_of_build built
  refine ⟨target, live, ?_, copied, receipt, map, last, built,
    evolves.same (generation.symm.trans current)⟩
  apply (Told.unclosed_iff sound.tells).mpr
  rw [live]
  exact ⟨target.factory, rfl⟩

/-- Calls were added, and where one of them solves, the instance held the model, which
stays as it was. -/
structure Faithful (before after : Recorded World Factory Instance) : Prop where
  model : after.model = before.model
  calls : ∃ added, after.entries = before.entries ++ added ∧
    Throughout (fun earlier entry => entry.call.isSolve = true →
      Serves (before.entries ++ earlier) entry.number before.model) added

theorem Faithful.trans {first second third : Recorded World Factory Instance}
    (left : Faithful first second) (right : Faithful second third) : Faithful first third where
  model := right.model.trans left.model
  calls := by
    obtain ⟨added, joined, serves⟩ := left.calls
    obtain ⟨others, othersJoined, othersServe⟩ := right.calls
    refine ⟨added ++ others, ?_, throughout_append.mpr ⟨serves, ?_⟩⟩
    · rw [othersJoined, joined, List.append_assoc]
    · refine othersServe.imp ?_
      intro earlier entry holds solves
      have here := holds solves
      rw [joined, left.model, List.append_assoc] at here
      exact here

theorem faithful_of_quiet (model : after.model = before.model)
    (quiet : Quiet before.entries after.entries) : Faithful before after := by
  obtain ⟨added, joined, silent⟩ := quiet
  refine ⟨model, added, joined, ?_⟩
  rintro earlier entry later rfl solves
  have unsolved := (silent entry (List.mem_append_right _ List.mem_cons_self)).1
  rw [solves] at unsolved
  cases unsolved

theorem Manages.faithful (manages : Manages solver.recorded before after) :
    Faithful before after := by
  obtain ⟨link, rfl, moved⟩ := manages
  exact faithful_of_quiet rfl moved.quiet

theorem faithful_runSolver (sound : session.Sound) (cached : session.isCached = true)
    (synced : session.state = .synced) :
    Ends (runSolver solver.recorded) session (fun _ after => Faithful session after)
      fun _ after => Faithful session after := by
  obtain ⟨target, live, serves⟩ := sound.serves cached synced
  have solved : ∀ world reply, Faithful session
      { session with link := session.link.noted world target (.optimize reply) } := by
    intro world reply
    refine ⟨rfl, _, rfl, ?_⟩
    refine throughout_singleton.mpr fun _ => ?_
    rw [List.append_nil]
    exact serves
  apply ends_callLive live
  · exact fun _ world => solved world (.ok ())
  · exact fun cause world => solved world (.error cause)

theorem synced_prepare (sound : session.Sound) (cached : session.isCached = true) :
    Ends (onLink (Link.prepare solver.recorded)) session
      (fun _ after => (after.Sound ∧ after.state = .synced) ∧ Manages solver.recorded session after)
      fun _ after => Manages solver.recorded session after := by
  have prepares : Ends (onLink (Link.prepare solver.recorded)) session
      (fun _ after => after.Sound ∧ after.state = .synced) fun _ after => after.Sound :=
    ends_onLink (Link.synced_prepare sound (not_direct_of_cached cached))
  exact (prepares.and (manages_onLink Link.manages_prepare session)).mono (fun _ _ both => both)
    fun _ _ both => both.2

theorem faithful_optimize (sound : session.Sound) (cached : session.isCached = true) :
    Ends (optimize solver.recorded) session (fun _ after => Faithful session after)
      fun _ after => Faithful session after := by
  have forgotten : ∀ {after : Recorded World Factory Instance},
      Faithful session.withoutRecord after → Faithful session after :=
    fun faithful => ⟨faithful.model, faithful.calls⟩
  apply ends_bind
  apply ends_modify
  apply ends_bind
  apply ends_get
  show Ends (if session.isCached = true then _ else _) session.withoutRecord _ _
  rw [if_pos cached]
  apply ends_bind
  refine (synced_prepare sound.withoutRecord cached).mono ?_ fun _ _ moved =>
    forgotten moved.faithful
  rintro _ prepared ⟨⟨soundPrepared, synced⟩, managed⟩
  have first := forgotten managed.faithful
  apply ends_bind
  refine (faithful_runSolver soundPrepared (managed.kept.isCached.trans cached) synced).mono ?_
    fun _ _ faithful => first.trans faithful
  intro _ ran faithful
  have second := first.trans faithful
  apply ends_bind
  refine (manages_collect ran).mono ?_ fun _ _ moved => second.trans moved.faithful
  intro record collected moved
  have third := second.trans moved.faithful
  apply ends_bind
  apply ends_modify
  apply ends_modify
  exact ⟨third.model, third.calls⟩

theorem faithful_optimizeWith (sound : session.Sound) (cached : session.isCached = true)
    (factory : Factory) :
    Ends (optimizeWith solver.recorded factory) session (fun _ after => Faithful session after)
      fun _ after => Faithful session after := by
  have unchanged : Faithful session session := faithful_of_quiet rfl (.refl _)
  apply ends_bind
  apply ends_get
  split
  · exact ends_throw unchanged
  · split
    · exact ends_throw unchanged
    · apply ends_bind
      refine ((keepsSound_attach sound factory).and (forgets_attach factory)).mono ?_ ?_
      · rintro _ attached ⟨soundAttached, managed⟩
        have first : Faithful session attached := ⟨managed.faithful.model, managed.faithful.calls⟩
        have cachedAttached := managed.kept.isCached.trans cached
        apply ends_bind
        refine ((keepsSound_sync soundAttached).and
          (manages_onLink Link.manages_sync attached)).mono ?_ ?_
        · rintro _ synced ⟨soundSynced, managed⟩
          have second := first.trans managed.faithful
          exact (faithful_optimize soundSynced (managed.kept.isCached.trans cachedAttached)).mono
            (fun _ _ faithful => second.trans faithful) fun _ _ faithful => second.trans faithful
        · exact fun _ _ ended => first.trans ended.2.faithful
      · exact fun _ _ ended => ⟨ended.2.faithful.model, ended.2.faithful.calls⟩

/-! ## Every operation -/

/-- Calls were added, and where one of them solves, the instance held the model and the model
was not changed. -/
def Attends (before after : Recorded World Factory Instance) : Prop :=
  ∃ added, after.entries = before.entries ++ added ∧
    Throughout (fun earlier entry => entry.call.isSolve = true →
      after.model = before.model ∧ Serves (before.entries ++ earlier) entry.number before.model)
      added

theorem Faithful.attends (faithful : Faithful before after) : Attends before after := by
  obtain ⟨added, joined, serves⟩ := faithful.calls
  exact ⟨added, joined, serves.imp fun _ _ holds solves => ⟨faithful.model, holds solves⟩⟩

theorem Edited.attends (edited : Edited before after) : Attends before after := by
  obtain ⟨events, same⟩ := edited.link
  refine ⟨[], ?_, throughout_nil⟩
  unfold entries
  rw [same, List.append_nil]

theorem attends_perform (sound : session.Sound) (cached : session.isCached = true)
    (operation : Operation Factory) :
    Ends (perform solver.recorded operation) session (fun _ after => Attends session after)
      fun _ after => Attends session after := by
  rcases operation.kinds with ⟨change, rfl⟩ | plain | lifecycle | rfl | ⟨factory, rfl⟩
  · apply ends_bind
    unfold Ends
    rw [edit_of_cached cached]
    refine (edited_editModel change session).mono ?_ fun _ _ edited => edited.attends
    intro created after edited
    cases created <;> exact edited.attends
  · exact (manages_perform plain session).mono (fun _ _ moved => moved.faithful.attends)
      fun _ _ moved => moved.faithful.attends
  · exact (forgets_perform lifecycle).mono (fun _ _ moved => moved.faithful.attends)
      fun _ _ moved => moved.faithful.attends
  · exact (ends_done (faithful_optimize sound cached)).mono
      (fun _ _ faithful => faithful.attends) fun _ _ faithful => faithful.attends
  · exact (ends_done (faithful_optimizeWith sound cached factory)).mono
      (fun _ _ faithful => faithful.attends) fun _ _ faithful => faithful.attends

/-! ## Runs -/

abbrev RecordedStep (World Factory Instance : Type) :=
  Step (Journal World Factory) Factory (Tracked Factory Instance)

/-- Whether a call was made in a step that leaves the model alone, to an instance that held
the model. -/
structure Step.Justifies (step : RecordedStep World Factory Instance)
    (earlier : List (JournalEntry Factory)) (entry : JournalEntry Factory) : Prop where
  begun : entries step.before <+: earlier
  made : earlier ++ [entry] <+: entries step.after
  model : step.after.model = step.before.model
  serves : Serves earlier entry.number step.before.model

/-- Every call that solves was made in a step of the run, while the instance held the model. -/
def Justified (now : Recorded World Factory Instance)
    (past : List (RecordedStep World Factory Instance)) : Prop :=
  Throughout (fun earlier entry => entry.call.isSolve = true →
    ∃ step ∈ past, step.Justifies earlier entry) now.entries

theorem justified_of_quiet {now : Recorded World Factory Instance} (quiet : Quiet [] now.entries) :
    Justified now [] := by
  obtain ⟨added, joined, silent⟩ := quiet
  rw [List.nil_append] at joined
  intro earlier entry later split solves
  have member : entry ∈ added := by
    rw [← joined, split]
    exact List.mem_append_right _ List.mem_cons_self
  have unsolved := (silent entry member).1
  rw [solves] at unsolved
  cases unsolved

theorem Justified.extend
    {past : List (RecordedStep World Factory Instance)}
    {next : RecordedStep World Factory Instance}
    (justified : Justified next.before past) (attends : Attends next.before next.after) :
    Justified next.after (past ++ [next]) := by
  obtain ⟨added, joined, serves⟩ := attends
  unfold Justified
  rw [joined]
  refine throughout_append.mpr ⟨?_, ?_⟩
  · refine justified.imp ?_
    intro earlier entry holds solves
    obtain ⟨step, member, justifies⟩ := holds solves
    exact ⟨step, List.mem_append_left _ member, justifies⟩
  · intro earlier entry later split solves
    obtain ⟨model, holds⟩ := serves earlier entry later split solves
    refine ⟨next, List.mem_append_right _ List.mem_cons_self, ?_, ?_, model, holds⟩
    · exact List.prefix_append _ _
    · rw [joined, split]
      exact ⟨later, by simp⟩

structure Conducted (configuration : Configuration Factory) (now : Recorded World Factory Instance)
    (past : List (RecordedStep World Factory Instance)) : Prop where
  lawful : Lawful configuration now
  justified : Justified now past

section Conducted

variable {configuration : Configuration Factory} (cached : configuration.mode ≠ .direct)
include cached

theorem Lawful.isCached (lawful : Lawful configuration session) : session.isCached = true := by
  by_contra direct
  exact cached (lawful.mode.symm.trans (mode_of_not_cached direct))

theorem Conducted.extend
    {past : List (RecordedStep World Factory Instance)}
    (conducted : Conducted configuration session past) (operation : Operation Factory) :
    Conducted configuration (step solver.recorded session operation).after
      (past ++ [step solver.recorded session operation]) := by
  have attends : Attends session (step solver.recorded session operation).after :=
    ends_stateAfter.mp
      (attends_perform conducted.lawful.sound (conducted.lawful.isCached cached) operation)
  exact ⟨lawful_step conducted.lawful operation, conducted.justified.extend attends⟩

end Conducted

theorem quiet_opening (opening : Opening) (configuration : Configuration Factory) (world : World) :
    Ends (opening.action solver.recorded) (unplayed configuration world)
      (fun _ after => Quiet [] after.entries) fun _ after => Quiet [] after.entries := by
  apply ends_opening
  · exact fun _ => .refl []
  · intro model events
    have quiet : ∀ after : Recorded World Factory Instance, Manages solver.recorded
        { (unplayed configuration world : Recorded World Factory Instance) with
          model := model
          link := { (unplayed configuration world : Recorded World Factory Instance).link with
            events := events } } after → Quiet [] after.entries := by
      rintro after ⟨link, rfl, moved⟩
      exact moved.quiet
    exact (manages_onLink (fun _ => Link.manages_start) _).mono (fun _ after => quiet after)
      fun _ after => quiet after

/-- In every run of a session with a model, whatever the solver does: a model is copied right
after the instance was emptied; no entity is handed over by itself; while the session is
synced, the live instance holds the model as it is; and an instance is only asked to solve
while it holds the model as it then is. -/
theorem synchrony_of_run {configuration : Configuration Factory} {world : World}
    {opening : Opening} (cached : configuration.mode ≠ .direct)
    (opened : opening.action solver.recorded (unplayed configuration world) = .ok () session)
    (operations : List (Operation Factory)) :
    let now := finish solver.recorded session operations
    Throughout (fun earlier entry => entry.call.copied?.isSome = true →
      ∃ before, earlier = before ++ [⟨entry.number, entry.factory, .empty (.ok ())⟩])
      now.entries ∧
    (now.state = .synced → ∃ target, now.link.live = some target ∧
      Serves now.entries target.number now.model) ∧
    Throughout (fun earlier entry => entry.call.isSolve = true →
      ∃ step ∈ history solver.recorded session operations, step.Justifies earlier entry)
      now.entries ∧
    ∀ entry ∈ now.entries, entry.call.isIncremental = false := by
  intro now
  have start : Conducted configuration session [] :=
    ⟨(lawful_opening opening world).of_ok opened,
      justified_of_quiet ((quiet_opening opening configuration world).of_ok opened)⟩
  have run : Conducted configuration now (history solver.recorded session operations) :=
    holds_of_run start (fun _ _ operation conducted => conducted.extend cached operation) operations
  have sound := run.lawful.sound
  refine ⟨?_, ?_, run.justified, ?_⟩
  · exact Told.copies sound.tells
  · exact sound.serves (run.lawful.isCached cached)
  · apply Told.not_incremental sound.tells
    rw [run.lawful.mode]
    exact cached

/-! ## A run with a scripted solver -/

def scriptedSession : Recorded Scripted.World String Scripted.Instance :=
  stateAfter (start Scripted.solver.recorded) (unplayed { factory := some "demo" } {})

def copyingOperations : List (Operation String) :=
  [.edit (.addVariable .free .continuous), .sync, .edit (.setUpperBound ⟨0⟩ 4), .optimize]

theorem synchrony_of_scriptedSession :
    (({ factory := some "demo" } : Configuration String).mode ≠ .direct ∧
      Opening.fresh.action Scripted.solver.recorded (unplayed { factory := some "demo" } {}) =
        .ok () scriptedSession) ∧
      ∃ target, (finish Scripted.solver.recorded scriptedSession copyingOperations).link.live =
          some target ∧
        Serves (finish Scripted.solver.recorded scriptedSession copyingOperations).entries
          target.number
          (finish Scripted.solver.recorded scriptedSession copyingOperations).model := by
  have cached : ({ factory := some "demo" } : Configuration String).mode ≠ .direct := by decide
  have opened : Opening.fresh.action Scripted.solver.recorded
      (unplayed { factory := some "demo" } {}) = .ok () scriptedSession := rfl
  have synced : (finish Scripted.solver.recorded scriptedSession copyingOperations).state =
      .synced := by decide +kernel
  exact ⟨⟨cached, opened⟩, (synchrony_of_run cached opened copyingOperations).2.1 synced⟩

end Session

end ConicModel
