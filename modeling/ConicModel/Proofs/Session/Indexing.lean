import ConicModel.Proofs.Session.Correspondence
import ConicModel.Proofs.Session.Machine
import ConicModel.Proofs.Session.Misplacement

/-!
Contract: in a session with a model, solving has an index for every entity it reads.

Owns:
- `IndexMap.Indexes`, which says that a correspondence is one of the model as it is;
- the fact that a prepared session has such a correspondence, and keeps it while it solves;
- which causes solving and the questions for indices and entities are left with.

Does not own: whether an index leads back to its entity.

A solve looks for a lost correspondence and for entities without an index.  Neither comes about:
whatever was removed from the model and whatever receipt was accepted, the correspondence was
paired with the same entities, and running the solver and reading results do not touch it.
-/

namespace ConicModel

variable {World Factory Instance α : Type}

/-! ## Correspondences of the model as it is -/

/-- Whether a correspondence is one of the model as it is: it was paired with this generation, and
exactly the live entities have an index. -/
structure IndexMap.Indexes (map : IndexMap) (model : Model Float) : Prop where
  current : map.isCurrent model = true
  indexed : ∀ entity, (∃ index, map.index? entity = some index) ↔ model.contains entity = true

theorem IndexMap.indexes_of_build {model : Model Float} {receipt : CopyReceipt} {map : IndexMap}
    (wellFormed : model.WellFormed) (built : build model receipt = .ok map) :
    map.Indexes model := by
  obtain ⟨vars, constraints⟩ := pairs_of_build built
  refine ⟨beq_iff_eq.mpr (Link.generation_of_build built), fun entity => ?_⟩
  have indexed : ∀ {kind : EntityKind} {id : EntityId kind} {pairing : Pairing kind}
      {wrap : SolverIndex kind → IndexRef},
      (∃ index, (pairing.index? id).map wrap = some index) ↔
        ∃ index, pairing.index? id = some index := by
    intro kind id pairing wrap
    cases pairing.index? id <;> simp
  cases entity with
  | var id =>
    exact indexed.trans ((Pairing.exists_index?_iff wellFormed.vars.ids_nodup vars).trans
      Registry.contains_iff.symm)
  | con id =>
    exact indexed.trans ((Pairing.exists_index?_iff wellFormed.constraints.ids_nodup
      constraints).trans Registry.contains_iff.symm)

/-- With such a correspondence no live entity is without an index. -/
theorem Link.Unindexed.isOutside {map : IndexMap} {model : Model Float} {cause : Session.Error}
    (unindexed : Unindexed map (fun entity => model.contains entity = true) cause)
    (indexes : map.Indexes model) : cause.IsOutside := by
  rcases unindexed with outside | ⟨entity, live, missing, rfl⟩
  · exact outside
  · obtain ⟨index, found⟩ := (indexes.indexed entity).mpr live
    rw [missing] at found
    cases found

/-- In manual mode a preparation asks for a copy that is out of date to be refreshed. -/
theorem Link.prepare_of_outOfSync {solver : Solver World Factory Instance}
    {link : Link World Factory Instance} {model : Model Float} (manual : link.mode = .manual)
    (outOfSync : link.state model = .outOfSync) :
    prepare solver model link = .error (.stale .copyToRefresh) link := by
  unfold prepare
  rw [get_bind, manual]
  dsimp only
  rw [outOfSync]
  rfl

namespace Session

/-! ## Stale mappings among the causes -/

theorem Error.kind_eq_staleMapping_iff {cause : Error} :
    cause.kind = .staleMapping ↔ ∃ what, cause = .stale what := by
  constructor
  · intro kind
    cases cause with
    | stale what => exact ⟨what, rfl⟩
    | model cause =>
      unfold Error.kind at kind
      dsimp only at kind
      split at kind <;> cases kind
    | _ => cases kind
  · rintro ⟨what, rfl⟩
    rfl

theorem Error.IsOutside.kind_ne_staleMapping {cause : Error} (outside : cause.IsOutside) :
    cause.kind ≠ .staleMapping := by
  intro kind
  obtain ⟨what, rfl⟩ := kind_eq_staleMapping_iff.mp kind
  exact outside

/-! ## Sessions with a correspondence -/

/-- The session has a correspondence, and it is one of the model as it is. -/
def Indexed (session : Session World Factory Instance) : Prop :=
  ∃ map, session.link.map = some map ∧ map.Indexes session.model

section Indexed

variable {solver : Solver World Factory Instance}
  {session before after : Recorded World Factory Instance}

/-- What a synced session was paired with are the entities of its model. -/
theorem Sound.indexed (sound : session.Sound) (cached : session.isCached = true)
    (reached : session.model.Reachable) (synced : session.state = .synced) : Indexed session := by
  obtain ⟨map, present, generation⟩ :=
    Link.current_of_synced (not_direct_of_cached cached) synced
  obtain ⟨_, copied, receipt, _, _, built, evolves⟩ := sound.copied map present
  -- What was copied is an earlier model of this generation, so its pairing is one of this model.
  have sameGeneration := (Link.generation_of_build built).symm.trans generation
  rw [IndexMap.build_congr (evolves.same sameGeneration) sameGeneration] at built
  exact ⟨map, present, IndexMap.indexes_of_build reached.wellFormed built⟩

theorem Handles.indexed (handles : Handles before after) (indexed : Indexed before) :
    Indexed after := by
  obtain ⟨map, present, indexes⟩ := indexed
  refine ⟨map, handles.link.map.trans present, ?_⟩
  rw [handles.model]
  exact indexes

/-- Collecting with such a correspondence misses no index. -/
theorem outside_collect (indexed : Indexed session) :
    Ends (collect solver.recorded) session (fun _ _ => True) fun cause _ => cause.IsOutside := by
  obtain ⟨map, present, indexes⟩ := indexed
  refine (ends_collect_causes session).mono (fun _ _ _ => trivial) fun cause _ why => ?_
  rw [present] at why
  exact Link.Unindexed.isOutside why indexes

end Indexed

/-! ## Solving -/

section Solving

variable {solver : Solver World Factory Instance} {session : Recorded World Factory Instance}
  (sound : session.Sound) (cached : session.isCached = true) (reached : session.model.Reachable)
include sound cached reached

theorem indexed_prepare :
    Ends (onLink (Link.prepare solver.recorded)) session
      (fun _ after => (after.state = .synced ∧ Indexed after) ∧
        Manages solver.recorded session after)
      fun cause _ => cause.IsOutside ∨ session.link.mode = .manual ∧
        session.state = .outOfSync ∧ cause = .stale .copyToRefresh := by
  have causes : Ends (onLink (Link.prepare solver.recorded)) session (fun _ _ => True)
      fun cause _ => cause.IsOutside ∨ session.link.mode = .manual ∧
        session.state = .outOfSync ∧ cause = .stale .copyToRefresh :=
    ends_onLink (Link.ends_prepare_causes session.model session.link)
  refine ((synced_prepare sound cached).and causes).mono ?_ fun _ _ ended => ended.2
  rintro _ after ⟨⟨⟨soundAfter, synced⟩, managed⟩, _⟩
  obtain ⟨link, rfl, moved⟩ := managed
  exact ⟨⟨synced, soundAfter.indexed ((Manages.kept ⟨link, rfl, moved⟩).isCached.trans cached)
    reached synced⟩, link, rfl, moved⟩

/-- Solving is refused for a cause that lies with the solver, or for a model that has to be copied
first and in manual mode is not. -/
theorem ends_optimize_causes :
    Ends (optimize solver.recorded) session (fun _ _ => True) fun cause _ =>
      cause.IsOutside ∨ session.link.mode = .manual ∧ session.state = .outOfSync ∧
        cause = .stale .copyToRefresh := by
  apply ends_bind
  apply ends_modify
  apply ends_bind
  apply ends_get
  show Ends (if session.isCached = true then _ else _) session.withoutRecord _ _
  rw [if_pos cached]
  apply ends_bind
  refine (indexed_prepare sound.withoutRecord cached reached).mono ?_ fun _ _ why => why
  rintro _ prepared ⟨⟨_, indexed⟩, _⟩
  apply ends_bind
  refine ((handles_runSolver prepared).and (blames_callLive _ prepared)).mono ?_ fun _ _ ended =>
    .inl ended.2
  rintro _ ran ⟨handles, _⟩
  apply ends_bind
  refine (outside_collect (handles.indexed indexed)).mono ?_ fun _ _ outside => .inl outside
  intro record collected _
  exact ends_bind (ends_modify (ends_modify trivial))

/-- Solving with a factory copies first, so what is left is the solver, or a factory that was
there before. -/
theorem ends_optimizeWith_causes (factory : Factory) :
    Ends (optimizeWith solver.recorded factory) session (fun _ _ => True) fun cause _ =>
      cause.IsOutside ∨ cause = .configuration .factoryConfigured := by
  apply ends_bind
  apply ends_get
  rw [cached, if_neg (by decide)]
  split
  · exact ends_throw (.inr rfl)
  · apply ends_bind
    refine ((outside_forgetting cached fun ready => Link.outside_attach ready factory).and
      ((keepsSound_attach sound factory).and (forgets_attach factory))).mono ?_ fun _ _ ended =>
        .inl ended.1
    rintro _ attached ⟨_, soundAttached, managed⟩
    have cachedAttached := managed.kept.isCached.trans cached
    have reachedAttached : attached.model.Reachable := by
      rw [managed.kept.model]
      exact reached
    apply ends_bind
    refine ((outside_onLink cachedAttached fun ready => Link.outside_sync ready _).and
      (((keepsSound_sync soundAttached).and (ends_sync cachedAttached)).and
        (manages_onLink Link.manages_sync attached))).mono ?_ fun _ _ ended => .inl ended.1
    rintro _ copied ⟨_, ⟨soundCopied, synced, _⟩, managed⟩
    have reachedCopied : copied.model.Reachable := by
      rw [managed.kept.model]
      exact reachedAttached
    refine (ends_optimize_causes soundCopied (managed.kept.isCached.trans cachedAttached)
      reachedCopied).mono (fun _ _ _ => trivial) ?_
    rintro cause _ (outside | ⟨_, outdated, _⟩)
    · exact .inl outside
    · rw [synced] at outdated
      cases outdated

end Solving

/-! ## Asking for indices and entities -/

section Asking

variable {link : Link World Factory Instance} {model : Model Float} {map : IndexMap} {cause : Error}
  (cached : link.mode ≠ .direct) (current : link.currentMap model = .ok map)
include cached current

/-- With a current correspondence, an entity without an index is an unknown one. -/
theorem indexOf_eq_error {entity : EntityRef} (refused : link.indexOf model entity = .error cause) :
    cause = .model (Model.unknown entity) := by
  unfold Link.indexOf at refused
  rw [if_neg cached, current] at refused
  cases found : map.index? entity with
  | none =>
    simp only [bind, Except.bind, found] at refused
    cases refused
    rfl
  | some index =>
    simp only [bind, Except.bind, found] at refused
    cases refused

/-- An index without an entity is one that the solver would not know. -/
theorem entityOf_eq_error {index : IndexRef} (refused : link.entityOf model index = .error cause) :
    cause = .solver (Link.unknownIndex index) := by
  unfold Link.entityOf at refused
  rw [if_neg cached, current] at refused
  cases found : map.entity? index with
  | none =>
    simp only [bind, Except.bind, found] at refused
    cases refused
    rfl
  | some entity =>
    simp only [bind, Except.bind, found] at refused
    cases refused

end Asking

theorem Error.kind_unknown (entity : EntityRef) :
    Error.kind (.model (Model.unknown entity)) = .model := by
  cases entity <;> rfl

section Prepared

variable {solver : Solver World Factory Instance}
  {session prepared : Recorded World Factory Instance}

/-- A synced session with a correspondence can look it up. -/
theorem Indexed.current (indexed : Indexed session) (synced : session.state = .synced) :
    ∃ map, session.link.currentMap session.model = .ok map ∧ map.Indexes session.model := by
  obtain ⟨map, present, indexes⟩ := indexed
  have attached : session.link.live ≠ none := by
    intro absent
    unfold state Link.state at synced
    rw [absent] at synced
    cases synced
  obtain ⟨target, live⟩ := Option.ne_none_iff_exists'.mp attached
  refine ⟨map, ?_, indexes⟩
  unfold Link.currentMap
  rw [live, present]
  exact if_pos indexes.current

variable (cached : session.isCached = true)
include cached

/-- In either mode a question for an index starts from where a preparation that succeeds ends. -/
theorem prepareIfAutomatic_of_prepare
    (done : onLink (Link.prepare solver.recorded) session = .ok () prepared) :
    prepareIfAutomatic solver.recorded session = .ok () prepared := by
  show (if session.link.mode = .automatic then onLink (Link.prepare solver.recorded)
    else pure () : Action (Journal World Factory) Factory (Tracked Factory Instance) Unit)
      session = _
  by_cases automatic : session.link.mode = .automatic
  · rw [if_pos automatic]
    exact done
  · rw [if_neg automatic]
    have manual : session.link.mode = .manual := by
      cases mode : session.link.mode with
      | automatic => contradiction
      | manual => rfl
      | direct => exact absurd mode (not_direct_of_cached cached)
    have unchanged : Ends (onLink (Link.prepare solver.recorded)) session
        (fun _ after => after = session) fun _ _ => True := by
      apply ends_onLink
      apply ends_bind
      apply ends_get
      rw [manual]
      dsimp only
      split
      · exact ends_throw trivial
      · exact ends_throw trivial
      · exact ends_pure rfl
    rw [unchanged.of_ok done]
    rfl

omit cached in
/-- In a synced session with a correspondence exactly the live entities have an index. -/
theorem indexOf_isOk (cached : session.isCached = true) (indexed : Indexed session)
    (synced : session.state = .synced) (entity : EntityRef) :
    ((session.link.indexOf session.model entity).map Answer.index).isOk = true ↔
      session.model.contains entity = true := by
  obtain ⟨map, current, indexes⟩ := indexed.current synced
  rw [← indexes.indexed entity]
  refine Iff.trans ?_ (exists_congr fun index =>
    indexOf_eq_ok (not_direct_of_cached cached) current)
  cases session.link.indexOf session.model entity <;> simp [Except.map, Except.isOk, Except.toBool]

/-- A question for an index, where preparing succeeds, is answered from where preparing ends. -/
theorem step_backendIndex_of_prepare
    (done : onLink (Link.prepare solver.recorded) session = .ok () prepared) (entity : EntityRef) :
    (step solver.recorded session (.backendIndex entity)).outcome =
      (prepared.link.indexOf prepared.model entity).map .index := by
  apply Step.of_ends fun outcome _ =>
    outcome = (prepared.link.indexOf prepared.model entity).map .index
  apply ends_bind
  apply ends_bind
  apply ends_of_ok (prepareIfAutomatic_of_prepare cached done)
  apply ends_onLink
  unfold Ends Link.backendIndex
  cases prepared.link.indexOf prepared.model entity with
  | ok index => exact rfl
  | error cause => exact rfl

end Prepared

/-! ## Causes that are left -/

theorem Error.IsOrdinary.ne_gap {cause : Error} (ordinary : cause.IsOrdinary) :
    cause ≠ .stale .mapLost ∧ ∀ entity, cause ≠ .stale (.unmapped entity) := by
  constructor
  · rintro rfl
    exact ordinary
  · rintro entity rfl
    exact ordinary

/-- Whether the operation works with the copy of the model: it solves, or asks for an index or for
an entity. -/
def Operation.usesCopy : Operation Factory → Bool
  | .optimize | .optimizeWith _ | .backendIndex _ | .entityOf _ => true
  | _ => false

/-- What was asked for is refused because the copy or the results are out of date. -/
def OutOfDate (outcome : Except Error Answer) : Prop :=
  ∃ cause, outcome = .error cause ∧ cause.kind = .staleMapping

theorem not_outOfDate {solver : Solver World Factory Instance}
    {session : Session World Factory Instance} {operation : Operation Factory}
    (ends : Ends (perform solver operation) session (fun _ _ => True)
      fun cause _ => cause.kind ≠ .staleMapping) :
    ¬ OutOfDate (step solver session operation).outcome := by
  apply Step.of_ends fun outcome _ => ¬ OutOfDate outcome
  refine ends.mono ?_ ?_
  · rintro _ _ _ ⟨_, ⟨⟩, _⟩
  · rintro _ _ fresh ⟨_, ⟨⟩, kind⟩
    exact fresh kind

section Causes

variable {solver : Solver World Factory Instance} {session : Recorded World Factory Instance}
  (sound : session.Sound) (cached : session.isCached = true) (reached : session.model.Reachable)
include sound cached reached

/-- No operation misses the correspondence or an index in it. -/
theorem unlost_perform (operation : Operation Factory) :
    Ends (perform solver.recorded operation) session (fun _ _ => True) fun cause _ =>
      cause ≠ .stale .mapLost ∧ ∀ entity, cause ≠ .stale (.unmapped entity) := by
  by_cases solves : operation = .optimize ∨ ∃ factory, operation = .optimizeWith factory
  · rcases solves with rfl | ⟨factory, rfl⟩
    · refine (ends_done (ends_optimize_causes sound cached reached)).mono (fun _ _ _ => trivial) ?_
      rintro cause _ (outside | ⟨_, _, rfl⟩)
      · exact outside.isOrdinary.ne_gap
      · exact ⟨nofun, nofun⟩
    · refine (ends_done (ends_optimizeWith_causes sound cached reached factory)).mono
        (fun _ _ _ => trivial) ?_
      rintro cause _ (outside | rfl)
      · exact outside.isOrdinary.ne_gap
      · exact ⟨nofun, nofun⟩
  · rw [not_or, not_exists] at solves
    exact (ordinary_perform cached solves.1 solves.2).mono (fun _ _ _ => trivial)
      fun _ _ ordinary => ordinary.ne_gap

/-- Solving with a factory is never refused as out of date. -/
theorem fresh_optimizeWith (factory : Factory) :
    Ends (perform solver.recorded (.optimizeWith factory)) session (fun _ _ => True)
      fun cause _ => cause.kind ≠ .staleMapping := by
  refine (ends_done (ends_optimizeWith_causes sound cached reached factory)).mono
    (fun _ _ _ => trivial) ?_
  rintro cause _ (outside | rfl)
  · exact outside.kind_ne_staleMapping
  · exact nofun

/-- In automatic mode whatever is asked of a prepared session is not refused as out of date if it
is not while the correspondence is current. -/
theorem fresh_onLink (automatic : session.link.mode = .automatic)
    {action : Model Float →
      Link.Action (Journal World Factory) Factory (Tracked Factory Instance) α}
    (fresh : ∀ {model : Model Float}
      {link : Link (Journal World Factory) Factory (Tracked Factory Instance)} {map : IndexMap},
      link.mode ≠ .direct → link.currentMap model = .ok map →
        Ends (action model) link (fun _ _ => True) fun cause _ => cause.kind ≠ .staleMapping) :
    Ends (do prepareIfAutomatic solver.recorded; onLink action) session (fun _ _ => True)
      fun cause _ => cause.kind ≠ .staleMapping := by
  apply ends_bind
  apply ends_bind
  apply ends_get
  rw [if_pos automatic]
  refine (indexed_prepare sound cached reached).mono ?_ ?_
  · rintro _ prepared ⟨⟨synced, indexed⟩, managed⟩
    obtain ⟨map, current, _⟩ := indexed.current synced
    exact ends_onLink
      (fresh (not_direct_of_cached (managed.kept.isCached.trans cached)) current)
  · rintro cause _ (outside | ⟨manual, _⟩)
    · exact outside.kind_ne_staleMapping
    · rw [automatic] at manual
      cases manual

/-- In automatic mode nothing that uses the copy is refused as out of date. -/
theorem fresh_perform (automatic : session.link.mode = .automatic) {operation : Operation Factory}
    (uses : operation.usesCopy = true) :
    Ends (perform solver.recorded operation) session (fun _ _ => True)
      fun cause _ => cause.kind ≠ .staleMapping := by
  cases operation with
  | optimize =>
    refine (ends_done (ends_optimize_causes sound cached reached)).mono (fun _ _ _ => trivial) ?_
    rintro cause _ (outside | ⟨manual, _⟩)
    · exact outside.kind_ne_staleMapping
    · rw [automatic] at manual
      cases manual
  | optimizeWith factory => exact fresh_optimizeWith sound cached reached factory
  | backendIndex entity =>
    apply ends_bind
    refine (fresh_onLink sound cached reached automatic ?_).mono (fun _ _ _ => ends_pure trivial)
      fun _ _ fresh => fresh
    intro model link map ready current
    unfold Ends Link.backendIndex
    cases found : link.indexOf model entity with
    | ok index => exact trivial
    | error cause =>
      rw [indexOf_eq_error ready current found]
      intro kind
      rw [Error.kind_unknown] at kind
      cases kind
  | entityOf index =>
    apply ends_bind
    refine (fresh_onLink sound cached reached automatic ?_).mono (fun _ _ _ => ends_pure trivial)
      fun _ _ fresh => fresh
    intro model link map ready current
    unfold Ends Link.entityBehind
    cases found : link.entityOf model index with
    | ok entity => exact trivial
    | error cause =>
      rw [entityOf_eq_error ready current found]
      exact nofun
  | _ => cases uses

/-- In manual mode solving is refused as out of date exactly if the session is out of sync. -/
theorem outOfDate_optimize_iff (manual : session.link.mode = .manual) :
    OutOfDate (step solver.recorded session .optimize).outcome ↔ session.state = .outOfSync := by
  constructor
  · refine fun outdated => by_contra fun insync => ?_
    refine not_outOfDate ?_ outdated
    refine (ends_done (ends_optimize_causes sound cached reached)).mono (fun _ _ _ => trivial) ?_
    rintro cause _ (outside | ⟨_, outOfSync, _⟩)
    · exact outside.kind_ne_staleMapping
    · exact absurd outOfSync insync
  · intro outOfSync
    apply Step.of_ends fun outcome _ => OutOfDate outcome
    apply ends_bind
    apply ends_bind
    apply ends_modify
    apply ends_bind
    apply ends_get
    show Ends (if session.isCached = true then _ else _) session.withoutRecord _ _
    rw [if_pos cached]
    apply ends_bind
    apply ends_onLink
    exact ends_of_error (Link.prepare_of_outOfSync manual outOfSync) ⟨_, rfl, rfl⟩

end Causes

/-! ## Runs -/

/-- In every run of a session with a model, whatever the solver does and whatever receipts it
gives: after a preparation that succeeds there is a correspondence of the model as it is, and
exactly the live entities are given an index; no operation misses the correspondence or an index
in it; in automatic mode nothing that uses the copy is refused as out of date; and in manual mode
solving is so refused exactly while the session is out of sync. -/
theorem indexed_of_run {session : Recorded World Factory Instance}
    {solver : Solver World Factory Instance} {configuration : Configuration Factory}
    {world : World} {opening : Opening} (cached : configuration.mode ≠ .direct)
    (opened : opening.action solver.recorded (unplayed configuration world) = .ok () session)
    (operations : List (Operation Factory)) :
    let now := finish solver.recorded session operations
    (∀ prepared, onLink (Link.prepare solver.recorded) now = .ok () prepared →
      Indexed prepared ∧ ∀ asked ∈ [now, prepared], ∀ entity,
        (step solver.recorded asked (.backendIndex entity)).outcome.isOk = true ↔
          asked.model.contains entity = true) ∧
    (∀ operation cause, (step solver.recorded now operation).outcome = .error cause →
      cause ≠ .stale .mapLost ∧ ∀ entity, cause ≠ .stale (.unmapped entity)) ∧
    (configuration.mode = .automatic → ∀ operation : Operation Factory,
      operation.usesCopy = true → ¬ OutOfDate (step solver.recorded now operation).outcome) ∧
    (configuration.mode = .manual →
      (OutOfDate (step solver.recorded now .optimize).outcome ↔ now.state = .outOfSync) ∧
      ∀ factory, ¬ OutOfDate (step solver.recorded now (.optimizeWith factory)).outcome) := by
  intro now
  have start : Lawful configuration session := (lawful_opening opening world).of_ok opened
  have lawful : Lawful configuration now := lawful_finish start operations
  have reached : now.model.Reachable := reachable_finish cached start
    ((reachable_opening opening configuration { world := world }).of_ok opened) operations
  have sound := lawful.sound
  have keepsModel : now.isCached = true := lawful.isCached cached
  refine ⟨fun prepared done => ?_, fun operation => ?_, fun automatic operation uses => ?_,
    fun manual => ⟨?_, fun factory => ?_⟩⟩
  · obtain ⟨⟨synced, indexed⟩, managed⟩ :=
      (indexed_prepare sound keepsModel reached).of_ok done
    have given := indexOf_isOk (managed.kept.isCached.trans keepsModel) indexed synced
    refine ⟨indexed, fun asked member entity => ?_⟩
    rcases List.mem_pair.mp member with rfl | rfl
    · rw [step_backendIndex_of_prepare keepsModel done, given, managed.kept.model]
    · rw [(step_backendIndex synced entity).1, given]
  · apply Step.of_ends fun outcome _ => ∀ cause, outcome = .error cause →
      cause ≠ .stale .mapLost ∧ ∀ entity, cause ≠ .stale (.unmapped entity)
    refine (unlost_perform sound keepsModel reached operation).mono (fun _ _ _ => nofun) ?_
    rintro _ _ unlost _ ⟨⟩
    exact unlost
  · exact not_outOfDate
      (fresh_perform sound keepsModel reached (lawful.mode.trans automatic) uses)
  · exact outOfDate_optimize_iff sound keepsModel reached (lawful.mode.trans manual)
  · exact not_outOfDate (fresh_optimizeWith sound keepsModel reached factory)

def thinningOperations : List (Operation String) :=
  [.edit (.addVariable .free .continuous), .edit (.addVariable .free .continuous),
    .edit (.addVariable .free .continuous), .edit (.remove (.var ⟨1⟩)), .optimize,
    .edit (.remove (.var ⟨2⟩)), .reattach]

/-- What is left is the first variable, and it alone is given an index. -/
theorem indexed_after_removals :
    let now := finish Scripted.solver.recorded scriptedSession thinningOperations
    (({ factory := some "demo" } : Configuration String).mode ≠ .direct ∧
      Opening.fresh.action Scripted.solver.recorded (unplayed { factory := some "demo" } {}) =
        .ok () scriptedSession) ∧
    ∃ prepared, onLink (Link.prepare Scripted.solver.recorded) now = .ok () prepared ∧
      Indexed prepared ∧
      (step Scripted.solver.recorded prepared (.backendIndex (.var ⟨0⟩))).outcome.isOk = true ∧
      (step Scripted.solver.recorded prepared (.backendIndex (.var ⟨1⟩))).outcome.isOk = false ∧
      (step Scripted.solver.recorded prepared (.backendIndex (.var ⟨2⟩))).outcome.isOk = false := by
  intro now
  have cached : ({ factory := some "demo" } : Configuration String).mode ≠ .direct := by decide
  have opened : Opening.fresh.action Scripted.solver.recorded
      (unplayed { factory := some "demo" } {}) = .ok () scriptedSession := rfl
  obtain ⟨prepared, done, kept⟩ : ∃ prepared,
      onLink (Link.prepare Scripted.solver.recorded) now = .ok () prepared ∧
        [0, 1, 2].map (fun number => prepared.model.contains (.var ⟨number⟩)) =
          [true, false, false] := ⟨_, rfl, by decide +kernel⟩
  obtain ⟨indexed, given⟩ := (indexed_of_run cached opened thinningOperations).1 prepared done
  have isOk : ∀ number, (step Scripted.solver.recorded prepared
      (.backendIndex (.var ⟨number⟩))).outcome.isOk = prepared.model.contains (.var ⟨number⟩) :=
    fun number => Bool.eq_iff_iff.mpr (given prepared (List.mem_pair.mpr (.inr rfl)) _)
  simp only [List.map_cons, List.map_nil, List.cons.injEq, and_true] at kept
  refine ⟨⟨cached, opened⟩, prepared, done, indexed, ?_⟩
  rw [isOk, isOk, isOk]
  exact kept

end Session

end ConicModel
