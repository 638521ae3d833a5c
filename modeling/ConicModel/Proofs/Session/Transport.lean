import ConicModel.Proofs.Session.Correspondence
import ConicModel.Proofs.Session.Gathering
import ConicModel.Proofs.Session.Recall

/-!
Contract: the results that a session with a model answers are what the solver replied when the
model was solved.

Owns:
- the phases of a solve that succeeds, for whatever it leaves;
- `CopiedLast` and `Solves`, what the transcript of a solve that succeeds consists of;
- `Transmits`, how the record that it leaves relates to its transcript;
- `Unmoved`, what a step keeps that leaves the record current;
- `Transports`, the way of every value from the reply to the answer.

Does not own: what a solver replies.

An entity and the value of its read are matched by their places: in the model, in the receipt
of the last copy, and among the reads.  What the session answers goes by the id.
-/

namespace ConicModel

variable {World Factory Instance : Type}

namespace Transcript

/-- The last copy of a transcript went into the instance and was answered by the receipt. -/
def CopiedLast (entries : List (JournalEntry Factory)) (target : Tracked Factory Instance)
    (receipt : CopyReceipt) : Prop :=
  ∃ earlier copied between,
    entries =
      earlier ++ ⟨target.number, target.factory, .copyModel copied (.ok receipt)⟩ :: between ∧
      ∀ entry ∈ between, entry.call.copied? = none

/-- The calls of a solve that succeeds: whatever there was until the last copy and after it, the
solve, questions about no entity, and the reads of primal and of dual values. -/
def Solves (before after : List (JournalEntry Factory)) (target : Tracked Factory Instance)
    (receipt : CopyReceipt) (primals duals : List (JournalEntry Factory)) : Prop :=
  ∃ ready facts, before <+: ready ∧ CopiedLast ready target receipt ∧
    (∀ entry ∈ facts, Link.AsksFact entry) ∧
    after = ready ++ ⟨target.number, target.factory, .optimize (.ok ())⟩ ::
      (facts ++ primals ++ duals)

end Transcript

namespace Session

open Transcript

variable {solver : Solver World Factory Instance}
  {session before after : Recorded World Factory Instance}

/-! ## Solving -/

/-- A solve was made and left a record, whose values were read at the indices of the receipt. -/
def Transmits (before after : Recorded World Factory Instance) : Prop :=
  ∃ (target : Tracked Factory Instance) (receipt : CopyReceipt)
    (primals duals : List (JournalEntry Factory)) (map : IndexMap) (record : ResultRecord),
    Solves before.entries after.entries target receipt primals duals ∧
    IndexMap.build before.model receipt = .ok map ∧ after.record = some record ∧
    Link.Collects target before.model map record primals duals

/-- The calls before a solve may be those of an earlier session with the same model. -/
theorem Transmits.of_earlier {middle : Recorded World Factory Instance}
    (transmits : Transmits middle after) (calls : before.entries <+: middle.entries)
    (model : middle.model = before.model) : Transmits before after := by
  obtain ⟨target, receipt, primals, duals, map, record, solves, built, present, collects⟩ :=
    transmits
  obtain ⟨ready, facts, begun, copied, asksFacts, joined⟩ := solves
  rw [model] at built collects
  exact ⟨target, receipt, primals, duals, map, record,
    ⟨ready, facts, calls.trans begun, copied, asksFacts, joined⟩, built, present, collects⟩

theorem Manages.adds (manages : Manages solver.recorded before after) :
    before.entries <+: after.entries := by
  obtain ⟨added, joined, _⟩ := manages.faithful.calls
  exact ⟨added, joined.symm⟩

/-- While a session with a model is synced, its correspondence pairs the model with the receipt
of the last copy. -/
theorem Sound.copiedLast (sound : session.Sound) (cached : session.isCached = true)
    (synced : session.state = .synced) :
    ∃ target map receipt, session.link.live = some target ∧ session.link.map = some map ∧
      CopiedLast session.entries target receipt ∧
      IndexMap.build session.model receipt = .ok map := by
  obtain ⟨map, present, current⟩ := Link.current_of_synced (not_direct_of_cached cached) synced
  obtain ⟨target, copied, receipt, live, last, built, evolves⟩ := sound.copied map present
  have generation := (Link.generation_of_build built).symm.trans current
  have tells := sound.tells
  unfold Link.Tells at tells
  rw [live] at tells
  obtain ⟨earlier, between, joined, copyNothing⟩ := Told.last_copy tells last
  refine ⟨target, map, receipt, live, present, ⟨earlier, copied, between, joined, copyNothing⟩, ?_⟩
  rw [← IndexMap.build_congr (evolves.same generation) generation]
  exact built

theorem ends_runSolver {target : Tracked Factory Instance}
    (live : session.link.live = some target) :
    Ends (runSolver solver.recorded) session
      (fun _ after => ∃ world, after =
        { session with link := session.link.noted world target (.optimize (.ok ())) })
      fun _ _ => True := by
  unfold runSolver
  apply ends_onLink
  apply ends_bind
  apply ends_bind
  apply ends_get
  rw [live]
  apply ends_pure
  apply Link.ends_callOf
  · exact fun _ world => ⟨world, rfl⟩
  · exact fun _ _ => trivial

theorem ends_collect {target : Tracked Factory Instance} {map : IndexMap}
    (live : session.link.live = some target) (present : session.link.map = some map)
    (wellFormed : session.model.WellFormed) :
    Ends (collect solver.recorded) session
      (fun record after => ∃ facts primals duals,
        after.entries = session.entries ++ (facts ++ primals ++ duals) ∧
        (∀ entry ∈ facts, Link.AsksFact entry) ∧
        Link.Collects target session.model map record primals duals)
      fun _ _ => True := by
  unfold collect
  apply ends_onLink
  apply ends_bind
  apply ends_get
  rw [present]
  apply ends_bind
  apply ends_bind
  apply ends_get
  rw [live]
  apply ends_pure
  exact Link.ends_collect wellFormed map

/-- Solving goes through three phases: it prepares, runs the solver, and collects the record. -/
theorem ends_optimize_of_phases {returned : Recorded World Factory Instance → Prop}
    (sound : session.Sound) (cached : session.isCached = true)
    (phases : ∀ prepared : Recorded World Factory Instance, prepared.Sound →
      prepared.state = .synced → Manages solver.recorded session.withoutRecord prepared →
      Ends (runSolver solver.recorded) prepared
        (fun _ ran => Ends (collect solver.recorded) ran
          (fun record collected => ∀ events, returned
            { collected with
              link := { collected.link with events := events }, record := some record })
          fun _ _ => True)
        fun _ _ => True) :
    Ends (optimize solver.recorded) session (fun _ after => returned after) fun _ _ => True := by
  apply ends_bind
  apply ends_modify
  apply ends_bind
  apply ends_get
  show Ends (if session.isCached = true then _ else _) session.withoutRecord _ _
  rw [if_pos cached]
  apply ends_bind
  refine (synced_prepare sound.withoutRecord cached).mono ?_ fun _ _ _ => trivial
  rintro _ prepared ⟨⟨soundPrepared, synced⟩, managed⟩
  apply ends_bind
  refine (phases prepared soundPrepared synced managed).mono ?_ fun _ _ _ => trivial
  intro _ ran collects
  apply ends_bind
  refine collects.mono ?_ fun _ _ _ => trivial
  intro record collected holds
  apply ends_bind
  apply ends_modify
  apply ends_modify
  exact holds _

/-- Solving with a factory attaches and copies, and then is solving. -/
theorem ends_optimizeWith_of_optimize {returned : Recorded World Factory Instance → Prop}
    (sound : session.Sound) (cached : session.isCached = true) (factory : Factory)
    (solves : ∀ ready : Recorded World Factory Instance, ready.Sound → ready.isCached = true →
      Manages solver.recorded session.withoutRecord ready →
      Ends (optimize solver.recorded) ready (fun _ after => returned after) fun _ _ => True) :
    Ends (optimizeWith solver.recorded factory) session (fun _ after => returned after)
      fun _ _ => True := by
  apply ends_bind
  apply ends_get
  split
  · exact ends_throw trivial
  · split
    · exact ends_throw trivial
    · apply ends_bind
      refine ((keepsSound_attach sound factory).and (forgets_attach factory)).mono ?_
        fun _ _ _ => trivial
      rintro _ attached ⟨soundAttached, managedAttached⟩
      apply ends_bind
      refine ((keepsSound_sync soundAttached).and
        (manages_onLink Link.manages_sync attached)).mono ?_ fun _ _ _ => trivial
      rintro _ ready ⟨soundReady, managedReady⟩
      have managed := trans_of (Manages solver.recorded) managedAttached managedReady
      exact solves ready soundReady (managed.kept.isCached.trans cached) managed

theorem transmits_optimize (sound : session.Sound) (cached : session.isCached = true)
    (wellFormed : session.model.WellFormed) :
    Ends (optimize solver.recorded) session (fun _ after => Transmits session after)
      fun _ _ => True := by
  refine ends_optimize_of_phases sound cached fun prepared soundPrepared synced managed => ?_
  have kept := managed.kept
  have sameModel : prepared.model = session.model := kept.model
  obtain ⟨target, map, receipt, live, present, copied, built⟩ :=
    soundPrepared.copiedLast (kept.isCached.trans cached) synced
  refine (ends_runSolver live).mono ?_ fun _ _ _ => trivial
  rintro _ ran ⟨world, noted⟩
  have ranLive : ran.link.live = some target := by
    rw [noted]
    exact live
  have ranMap : ran.link.map = some map := by
    rw [noted]
    exact present
  have ranModel : ran.model = prepared.model := by rw [noted]
  have ranCalls : ran.entries =
      prepared.entries ++ [⟨target.number, target.factory, .optimize (.ok ())⟩] := by
    rw [noted]
    rfl
  refine (ends_collect ranLive ranMap (ranModel ▸ sameModel ▸ wellFormed)).mono ?_
    fun _ _ _ => trivial
  rintro record collected ⟨facts, primals, duals, joined, asksFacts, collects⟩ events
  rw [ranCalls, List.append_assoc] at joined
  rw [ranModel] at collects
  have transmits : Transmits prepared
      { collected with link := { collected.link with events := events }, record := some record } :=
    ⟨target, receipt, primals, duals, map, record,
      ⟨prepared.entries, facts, List.prefix_rfl, copied, asksFacts, joined⟩, built, rfl, collects⟩
  exact transmits.of_earlier managed.adds sameModel

theorem transmits_optimizeWith (sound : session.Sound) (cached : session.isCached = true)
    (wellFormed : session.model.WellFormed) (factory : Factory) :
    Ends (optimizeWith solver.recorded factory) session (fun _ after => Transmits session after)
      fun _ _ => True := by
  refine ends_optimizeWith_of_optimize sound cached factory fun ready soundReady cachedReady
    managed => ?_
  have sameModel : ready.model = session.model := managed.kept.model
  refine (transmits_optimize soundReady cachedReady (sameModel ▸ wellFormed)).mono ?_
    fun _ _ _ => trivial
  intro _ after transmits
  exact transmits.of_earlier managed.adds sameModel

/-- Every solve that succeeds transmits, and leaves a record of the model as it is. -/
theorem transmits_step (sound : session.Sound) (cached : session.isCached = true)
    (wellFormed : session.model.WellFormed) {operation : Operation Factory}
    (succeeded : (step solver.recorded session operation).Succeeded) :
    Transmits session (step solver.recorded session operation).after ∧
      Solved session (step solver.recorded session operation).after := by
  have solved : Ends (perform solver.recorded operation) session
      (fun _ after => Transmits session after ∧ Solved session after) fun _ _ => True := by
    obtain ⟨solves, _⟩ := succeeded
    cases operation with
    | optimize =>
      apply ends_done
      exact ((transmits_optimize sound cached wellFormed).and (solved_optimize cached)).mono
        (fun _ _ ended => ended) fun _ _ _ => trivial
    | optimizeWith factory =>
      apply ends_done
      exact ((transmits_optimizeWith sound cached wellFormed factory).and
        (solved_optimizeWith cached factory)).mono (fun _ _ ended => ended) fun _ _ _ => trivial
    | _ => cases solves
  obtain ⟨_, answer, done⟩ := succeeded
  refine Step.of_ends (fun outcome after => outcome = .ok answer →
    Transmits session after ∧ Solved session after) ?_ done
  exact solved.mono (fun _ _ holds _ => holds) fun _ _ _ impossible => nomatch impossible

/-! ## After a solve -/

/-- Whether a step neither solved, nor replaced the solver, nor led the model to another
generation. -/
def Step.KeepsResults (step : Step World Factory Instance) : Prop :=
  step.operation.isLifecycle = false ∧ step.operation.isSolve = false ∧
    step.after.model.generation = step.before.model.generation

structure Unmoved (before after : Session World Factory Instance) : Prop where
  cached : after.isCached = before.isCached
  record : after.record = before.record
  generation : after.model.generation = before.model.generation
  content : Model.SameContent before.model after.model

theorem Regular.unmoved {step : Step World Factory Instance}
    (regular : Regular step.operation step.outcome step.before step.after)
    (keeps : step.KeepsResults) : Unmoved step.before step.after := by
  obtain ⟨stays, unsolved, generation⟩ := keeps
  exact ⟨congrArg Mode.isCached regular.link.mode, regular.record_of_quiet stays unsolved,
    generation, regular.model.same generation.symm⟩

theorem unmoved_finish {solver : Solver World Factory Instance}
    {session : Session World Factory Instance} (cached : session.isCached = true)
    {operations : List (Operation Factory)}
    (keeps : ∀ step ∈ history solver session operations, step.KeepsResults) :
    Unmoved session (finish solver session operations) := by
  induction operations generalizing session with
  | nil => exact ⟨rfl, rfl, rfl, .refl _⟩
  | cons operation others inductionHypothesis =>
    obtain ⟨keepsFirst, keepsOthers⟩ := List.forall_mem_cons.mp keeps
    have first : Unmoved session (step solver session operation).after :=
      Regular.unmoved (regular_step solver cached operation) keepsFirst
    have rest := inductionHypothesis (first.cached.trans cached) keepsOthers
    exact ⟨rest.cached.trans first.cached, rest.record.trans first.record,
      rest.generation.trans first.generation, first.content.trans rest.content⟩

/-! ## From the reply to the answer -/

/-- At every place of the model, the index of the receipt, the read of a primal value and the
answer of the session belong together, and there is one read for each variable. -/
def CarriesValues (solver : Solver World Factory Instance)
    (now : Recorded World Factory Instance) (target : Tracked Factory Instance)
    (receipt : CopyReceipt) (primals : List (JournalEntry Factory)) : Prop :=
  primals.length = now.model.vars.ids.length ∧
    ∀ (place : Nat) (id : VariableId), now.model.vars.ids[place]? = some id →
      ∃ index value, receipt.vars[place]? = some index ∧
        primals[place]? = some ⟨target.number, target.factory,
          .get (.variablePrimal index) (.ok (.float value))⟩ ∧
        Answers solver.recorded now (.value id) (.ok (.number value))

/-- The same for the constraints: what the session answers is what the reply told. -/
def CarriesDuals (solver : Solver World Factory Instance)
    (now : Recorded World Factory Instance) (target : Tracked Factory Instance)
    (receipt : CopyReceipt) (duals : List (JournalEntry Factory)) : Prop :=
  duals.length = now.model.constraints.entries.length ∧
    ∀ (place : Nat) (entry : Entry .con (Constraint Float)),
      now.model.constraints.entries[place]? = some entry →
      ∃ index reply reported, receipt.constraints[place]? = some index ∧
        duals[place]? = some ⟨target.number, target.factory,
          .get (.constraintDual index) reply⟩ ∧
        Reported entry.content.set reply reported ∧
        Answers solver.recorded now (.dual (.con entry.id)) (dualOutcome entry.id reported)

/-- What the solver replied when the model was solved is what the session answers, for the
variables if the primal status has values, and for the constraints if the dual status has. -/
structure Transports (solver : Solver World Factory Instance)
    (solve : RecordedStep World Factory Instance) (now : Recorded World Factory Instance)
    (target : Tracked Factory Instance) (receipt : CopyReceipt)
    (primals duals : List (JournalEntry Factory)) : Prop where
  calls : Solves solve.before.entries solve.after.entries target receipt primals duals
  values : ∃ status, Answers solver.recorded now .primalStatus (.ok (.status status)) ∧
    if status.hasValues then CarriesValues solver now target receipt primals else primals = []
  duals : ∃ status, Answers solver.recorded now .dualStatus (.ok (.status status)) ∧
    if status.hasValues then CarriesDuals solver now target receipt duals else duals = []

section Collected

variable {target : Tracked Factory Instance} {receipt : CopyReceipt} {model : Model Float}
  {map : IndexMap} {record : ResultRecord} {reads : List (JournalEntry Factory)}
  {now : Recorded World Factory Instance}
  (wellFormed : model.WellFormed) (built : IndexMap.build model receipt = .ok map)
  (current : Current now record) (content : Model.SameContent model now.model)
include wellFormed built current content

theorem carriesValues_of_gathers (values : record.summary.primalStatus.hasValues = true)
    (gathers : Gathers (fun id => id) (Link.GivesPrimal target map) model.vars.ids
      record.primals reads) : CarriesValues solver now target receipt reads := by
  unfold CarriesValues
  rw [← content.ids.1]
  refine ⟨gathers.count, ?_⟩
  intro place id here
  obtain ⟨_, read, index, value, indexed, found, rfl⟩ := gathers.answers place id here
  rw [Pairing.index?_at wellFormed.vars.ids_nodup (IndexMap.pairs_of_build built).1 here] at indexed
  exact ⟨index, value, indexed, read, current.answers_value values found⟩

theorem carriesDuals_of_gathers (values : record.summary.dualStatus.hasValues = true)
    (gathers : Gathers Entry.id (Link.GivesDual target map) model.constraints.entries
      record.duals reads) : CarriesDuals solver now target receipt reads := by
  constructor
  · have sameCount := congrArg List.length content.constraints
    rw [List.length_map, List.length_map] at sameCount
    exact gathers.count.trans sameCount
  · intro place entry here
    obtain ⟨solved, there, sameId, sameConstraint⟩ := content.constraint_at here
    obtain ⟨_, read, index, reply, indexed, reported, rfl⟩ := gathers.answers place solved there
    have placed : model.constraints.ids[place]? = some solved.id := by
      unfold Registry.ids
      rw [List.getElem?_map, there]
      rfl
    rw [Pairing.index?_at wellFormed.constraints.ids_nodup (IndexMap.pairs_of_build built).2
      placed] at indexed
    have live : now.model.constraints.contains entry.id = true :=
      Registry.contains_iff.mpr (Registry.mem_ids (List.mem_of_getElem? here))
    rw [sameId, sameConstraint] at reported
    exact ⟨index, reply, _, indexed, read, reported, current.answers_dual values live⟩

end Collected

/-- In every run of a session with a model, whatever the solver does: after a solve that
succeeded, and until the next solve, the next operation that replaces the solver and the next
change of the generation, the session answers what the solver replied in that solve, at the
indices of the last copy before it. -/
theorem transports_of_run {configuration : Configuration Factory} {world : World}
    {opening : Opening} (cached : configuration.mode ≠ .direct)
    (opened : opening.action solver.recorded (unplayed configuration world) = .ok () session)
    (first others : List (Operation Factory)) (operation : Operation Factory) :
    let solve := step solver.recorded (finish solver.recorded session first) operation
    let now := finish solver.recorded solve.after others
    solve.Succeeded → (∀ step ∈ history solver.recorded solve.after others, step.KeepsResults) →
      ∃ target receipt primals duals,
        Transports solver solve now target receipt primals duals := by
  intro solve now succeeded keeps
  have start : Lawful configuration session := (lawful_opening opening world).of_ok opened
  have lawful : Lawful configuration solve.before := lawful_finish start first
  have cachedBefore := lawful.isCached cached
  have reached : solve.before.model.Reachable := reachable_finish cached start
    ((reachable_opening opening configuration { world := world }).of_ok opened) first
  obtain ⟨⟨target, receipt, primals, duals, map, record, solves, built, present, collects⟩,
      solved⟩ := transmits_step lawful.sound cachedBefore reached.wellFormed succeeded
  have cachedAfter := (congrArg Mode.isCached solved.link.mode).trans cachedBefore
  have sameModel : solve.after.model = solve.before.model := solved.model
  have unmoved : Unmoved solve.after now := unmoved_finish cachedAfter keeps
  have current : Current now record := by
    obtain ⟨found, foundPresent, generation⟩ := solved.record
    cases present.symm.trans foundPresent
    refine ⟨unmoved.cached.trans cachedAfter, unmoved.record.trans present, ?_⟩
    rw [unmoved.generation, sameModel]
    exact generation
  have content : Model.SameContent solve.before.model now.model := sameModel ▸ unmoved.content
  refine ⟨target, receipt, primals, duals, solves, ⟨_, current.answers_primalStatus, ?_⟩,
    ⟨_, current.answers_dualStatus, ?_⟩⟩
  · have primalsRead := collects.primals
    split at primalsRead
    · rename_i values
      rw [if_pos values]
      exact carriesValues_of_gathers reached.wellFormed built current content values primalsRead
    · rename_i absent
      rw [if_neg absent]
      exact primalsRead
  · have dualsRead := collects.duals
    split at dualsRead
    · rename_i values
      rw [if_pos values]
      exact carriesDuals_of_gathers reached.wellFormed built current content values dualsRead
    · rename_i absent
      rw [if_neg absent]
      exact dualsRead

/-! ## A run with a scripted solver -/

/-- A solver that hands out indices with gaps and not in order, and has values for them. -/
def crossingScript : Scripted.Script where
  vars := some [9, 4]
  constraints := some [6]
  gets := [("TerminationStatus", some (.ok (.termination .optimal))),
    ("PrimalStatus", some (.ok (.result .feasiblePoint))),
    ("DualStatus", some (.ok (.result .feasiblePoint))),
    ("VariablePrimal(backend_variable[9])", some (.ok (.float 1.5))),
    ("VariablePrimal(backend_variable[4])", some (.ok (.float 2.5))),
    ("ConstraintDual(backend_constraint[6])", some (.ok (.float 0.5)))]

def crossingSession : Recorded Scripted.World String Scripted.Instance :=
  stateAfter (start Scripted.solver.recorded)
    (unplayed { factory := some "demo" } { scripts := [("demo", crossingScript)] })

def removingOperations : List (Operation String) :=
  [.edit (.addVariable .free .continuous), .edit (.addVariable .free .continuous),
    .edit (.addVariable .free .continuous), .edit (.remove (.var ⟨1⟩)),
    .edit (.addConstraint ⟨.scalar ⟨0, [(⟨2⟩, 1)], []⟩, .lessThan 4⟩)]

/-- The solved model is copied once more, and a refused change and metadata leave the results. -/
def idlingOperations : List (Operation String) :=
  [.sync, .edit (.remove (.var ⟨1⟩)), .edit (.setMetadata (.con ⟨0⟩) (.bool true))]

def tellsValues : Except Error Answer → Bool
  | .ok (.status status) => status.hasValues
  | _ => false

theorem transports_crossingSession :
    let solve := step Scripted.solver.recorded
      (finish Scripted.solver.recorded crossingSession removingOperations) .optimize
    let later := history Scripted.solver.recorded solve.after idlingOperations
    let now := finish Scripted.solver.recorded solve.after idlingOperations
    ((({ factory := some "demo" } : Configuration String).mode ≠ .direct ∧
      Opening.fresh.action Scripted.solver.recorded (unplayed { factory := some "demo" }
        { scripts := [("demo", crossingScript)] }) = .ok () crossingSession) ∧
      solve.Succeeded ∧ ∀ step ∈ later, step.KeepsResults) ∧
      now.model.vars.ids = [⟨0⟩, ⟨2⟩] ∧
      ∃ target receipt primals duals,
        Transports Scripted.solver solve now target receipt primals duals ∧
        CarriesValues Scripted.solver now target receipt primals ∧
        CarriesDuals Scripted.solver now target receipt duals := by
  intro solve later now
  have cached : ({ factory := some "demo" } : Configuration String).mode ≠ .direct := by decide
  have opened : Opening.fresh.action Scripted.solver.recorded (unplayed { factory := some "demo" }
      { scripts := [("demo", crossingScript)] }) = .ok () crossingSession := rfl
  have succeeded : solve.Succeeded := by
    have done : solve.outcome.isOk = true := by decide +kernel
    exact ⟨rfl, exists_of_isOk done⟩
  have keeps : ∀ step ∈ later, step.KeepsResults := by
    have quiet : (later.all fun step => !step.operation.isLifecycle && !step.operation.isSolve &&
        step.after.model.generation == step.before.model.generation) = true := by decide +kernel
    intro step member
    have here := List.all_eq_true.mp quiet step member
    simpa [Step.KeepsResults, and_assoc] using here
  have hasValues : ∀ (result : ResultRead) (status : ResultStatus),
      Answers Scripted.solver.recorded now result (.ok (.status status)) →
      tellsValues (step Scripted.solver.recorded now (.read result)).outcome = true →
      status.hasValues = true := by
    intro result status answers values
    rw [answers] at values
    exact values
  obtain ⟨target, receipt, primals, duals, transports⟩ :=
    transports_of_run cached opened removingOperations idlingOperations .optimize succeeded keeps
  refine ⟨⟨⟨cached, opened⟩, succeeded, keeps⟩, by decide +kernel, target, receipt, primals,
    duals, transports, ?_, ?_⟩
  · obtain ⟨status, answers, carries⟩ := transports.values
    rw [if_pos (hasValues _ _ answers (by decide +kernel))] at carries
    exact carries
  · obtain ⟨status, answers, carries⟩ := transports.duals
    rw [if_pos (hasValues _ _ answers (by decide +kernel))] at carries
    exact carries

end Session

end ConicModel
