import ConicModel.Proofs.Session.Independence
import ConicModel.Proofs.Session.IndexTable
import ConicModel.Proofs.Session.Synchrony

/-!
Contract: in a session with a model, when the index of an entity leads back to the entity.

Owns:
- the fact that the model of a session is always a reachable one;
- the questions for indices and entities, which a synced session answers as it is;
- the exact condition under which a synced session leads every live entity back to itself;
- the same for accepted receipts, in pairings and in tables, with a receipt that is accepted
  although it assigns an index twice.

Does not own: look-ups in a pairing.

The look-ups were paired with an earlier state of the model.  It has the content of the model
as it is while the session is synced, so the same receipt pairs both.
-/

namespace ConicModel

/-! ## Pairing the same content -/

theorem Model.SameContent.ids {left right : Model Float} (same : SameContent left right) :
    left.vars.ids = right.vars.ids ∧ left.constraints.ids = right.constraints.ids := by
  have bare : ∀ {kind : EntityKind} {Content : Type} (registry : Registry kind Content),
      registry.ids = (registry.entries.map Entry.bare).map Entry.id := by
    intro kind Content registry
    rw [List.map_map]
    rfl
  rw [bare left.vars, bare left.constraints, same.vars, same.constraints, ← bare, ← bare]
  exact ⟨rfl, rfl⟩

/-- The same content has the same constraint at a place, up to metadata. -/
theorem Model.SameContent.constraint_at {left right : Model Float} (same : SameContent left right)
    {place : Nat} {entry : Entry .con (Constraint Float)}
    (here : right.constraints.entries[place]? = some entry) :
    ∃ other, left.constraints.entries[place]? = some other ∧ other.id = entry.id ∧
      other.content = entry.content := by
  have bare := congrArg (fun entries => entries[place]?) same.constraints
  simp only [List.getElem?_map, here, Option.map_some, Option.map_eq_some_iff] at bare
  obtain ⟨other, there, alike⟩ := bare
  have sameId : other.bare.id = entry.bare.id := congrArg Entry.id alike
  have sameConstraint : other.bare.content = entry.bare.content := congrArg Entry.content alike
  exact ⟨other, there, sameId, sameConstraint⟩

/-- Pairing looks at nothing but the ids and the generation. -/
theorem IndexMap.build_congr {left right : Model Float} (same : Model.SameContent left right)
    (generation : left.generation = right.generation) (receipt : CopyReceipt) :
    build left receipt = build right receipt := by
  unfold build
  rw [same.ids.1, same.ids.2, generation]

namespace Session

variable {World Factory Instance : Type} {solver : Solver World Factory Instance}
  {session : Session World Factory Instance}

/-! ## The model of a session -/

theorem reachable_opening (opening : Opening) (configuration : Configuration Factory)
    (world : World) :
    Ends (opening.action solver) (idle configuration world) (fun _ after => after.model.Reachable)
      fun _ _ => True :=
  (initial_opening opening configuration world).mono (fun _ _ initial => initial.reachable)
    fun _ _ _ => trivial

/-! ## Asking for indices and entities -/

section Link

variable {link : Link World Factory Instance} {model : Model Float} {map : IndexMap}
  {entity : EntityRef} {index : IndexRef}

/-- A link that is synced needs no preparation. -/
theorem ends_prepare_of_synced (synced : link.state model = .synced) :
    Ends (Link.prepare solver model) link (fun _ after => after = link) fun _ _ => False := by
  have attached : ¬ link.live.isNone = true := by
    unfold Link.state at synced
    cases live : link.live <;> simp_all
  apply ends_bind
  apply ends_get
  split
  · exact ends_pure rfl
  · dsimp only
    rw [if_neg attached]
    apply ends_bind
    apply ends_get
    rw [if_neg (not_not.mpr synced)]
    exact ends_pure rfl
  · rw [synced]
    exact ends_pure rfl

variable (cached : link.mode ≠ .direct) (current : link.currentMap model = .ok map)
include cached current

theorem indexOf_eq_ok : link.indexOf model entity = .ok index ↔ map.index? entity = some index := by
  unfold Link.indexOf
  rw [if_neg cached, current]
  cases found : map.index? entity <;> simp [found, bind, Except.bind, pure, Except.pure]

theorem entityOf_eq_ok : link.entityOf model index = .ok entity ↔ map.entity? index = some entity := by
  unfold Link.entityOf
  rw [if_neg cached, current]
  cases found : map.entity? index <;> simp [found, bind, Except.bind, pure, Except.pure]

end Link

/-- The index that a session gives for the entity is one for which it then gives the entity. -/
def LeadsBack (solver : Solver World Factory Instance) (session : Session World Factory Instance)
    (entity : EntityRef) : Prop :=
  ∃ index, (step solver session (.backendIndex entity)).outcome = .ok (.index index) ∧
    (step solver (step solver session (.backendIndex entity)).after (.entityOf index)).outcome =
      .ok (.entity entity)

section Synced

variable (synced : session.state = .synced)
include synced

theorem ends_prepareIfAutomatic_of_synced :
    Ends (prepareIfAutomatic solver) session (fun _ after => after = session) fun _ _ => False := by
  apply ends_bind
  apply ends_get
  split
  · apply ends_onLink
    refine (ends_prepare_of_synced synced).mono ?_ fun _ _ impossible => impossible
    rintro _ _ rfl
    rfl
  · exact ends_pure rfl

/-- A synced session answers the question for an index as it is. -/
theorem step_backendIndex (entity : EntityRef) :
    (step solver session (.backendIndex entity)).outcome =
        (session.link.indexOf session.model entity).map .index ∧
      (step solver session (.backendIndex entity)).after = session := by
  apply Step.of_ends fun outcome after =>
    outcome = (session.link.indexOf session.model entity).map .index ∧ after = session
  apply ends_bind
  apply ends_bind
  refine (ends_prepareIfAutomatic_of_synced synced).mono ?_ fun _ _ impossible => impossible.elim
  rintro _ now rfl
  apply ends_onLink
  unfold Ends Link.backendIndex
  cases now.link.indexOf now.model entity with
  | ok index => exact ⟨rfl, rfl⟩
  | error cause => exact ⟨rfl, rfl⟩

theorem step_entityOf (index : IndexRef) :
    (step solver session (.entityOf index)).outcome =
        (session.link.entityOf session.model index).map .entity ∧
      (step solver session (.entityOf index)).after = session := by
  apply Step.of_ends fun outcome after =>
    outcome = (session.link.entityOf session.model index).map .entity ∧ after = session
  apply ends_bind
  apply ends_bind
  refine (ends_prepareIfAutomatic_of_synced synced).mono ?_ fun _ _ impossible => impossible.elim
  rintro _ now rfl
  apply ends_onLink
  unfold Ends Link.entityBehind
  cases now.link.entityOf now.model index with
  | ok entity => exact ⟨rfl, rfl⟩
  | error cause => exact ⟨rfl, rfl⟩

/-- A synced session leads an entity back exactly if its correspondence does. -/
theorem leadsBack_iff (cached : session.link.mode ≠ .direct) {map : IndexMap}
    (current : session.link.currentMap session.model = .ok map) {entity : EntityRef} :
    LeadsBack solver session entity ↔ map.Returns entity := by
  unfold LeadsBack IndexMap.Returns
  refine exists_congr fun index => ?_
  rw [(step_backendIndex synced entity).1, (step_backendIndex synced entity).2,
    (step_entityOf synced index).1]
  refine and_congr (Iff.trans ?_ (indexOf_eq_ok cached current))
    (Iff.trans ?_ (entityOf_eq_ok cached current))
  · cases session.link.indexOf session.model entity <;> simp [Except.map]
  · cases session.link.entityOf session.model index <;> simp [Except.map]

end Synced

/-! ## Runs -/

theorem reachable_finish {session : Recorded World Factory Instance}
    {configuration : Configuration Factory} (cached : configuration.mode ≠ .direct)
    (lawful : Lawful configuration session) (reached : session.model.Reachable)
    (operations : List (Operation Factory)) :
    (finish solver.recorded session operations).model.Reachable :=
  reachable_of_run (lawful.isCached cached) reached operations

/-- In every run of a session with a model, while the session is synced: all live entities are
led back to exactly if the receipt of the last copy assigns no index twice within a kind. -/
theorem leadsBack_of_run {session : Recorded World Factory Instance}
    {configuration : Configuration Factory} {world : World} {opening : Opening}
    (cached : configuration.mode ≠ .direct)
    (opened : opening.action solver.recorded (unplayed configuration world) = .ok () session)
    (operations : List (Operation Factory)) :
    let now := finish solver.recorded session operations
    now.state = .synced → ∃ target copied receipt, now.link.live = some target ∧
      Transcript.lastCopy? now.entries target.number = some (copied, .ok receipt) ∧
      ((∀ entity, now.model.contains entity = true → LeadsBack solver.recorded now entity) ↔
        receipt.vars.Nodup ∧ receipt.constraints.Nodup) := by
  intro now synced
  have start : Lawful configuration session := (lawful_opening opening world).of_ok opened
  have lawful : Lawful configuration now := lawful_finish start operations
  have reached : now.model.Reachable := reachable_finish cached start
    ((reachable_opening opening configuration { world := world }).of_ok opened) operations
  have keepsModel := not_direct_of_cached (lawful.isCached cached)
  obtain ⟨map, present, generation⟩ := Link.current_of_synced keepsModel synced
  obtain ⟨target, copied, receipt, live, last, built, evolves⟩ := lawful.sound.copied map present
  have current : now.link.currentMap now.model = .ok map := by
    unfold Link.currentMap
    rw [live, present]
    exact if_pos (beq_iff_eq.mpr generation)
  -- What was copied is an earlier model of this generation, so its pairing is one of this model.
  have sameGeneration := (Link.generation_of_build built).symm.trans generation
  rw [IndexMap.build_congr (evolves.same sameGeneration) sameGeneration] at built
  refine ⟨target, copied, receipt, live, last, ?_⟩
  rw [← IndexMap.returns_iff reached.wellFormed built]
  exact forall₂_congr fun entity _ => leadsBack_iff synced keepsModel current

/-! ## Accepted receipts -/

/-- An accepted receipt gives an index to every entity, and the way back from it; the look-ups are
inverse exactly if it assigns no index twice, and tables of indices and of ids answer the same.  A
session that is synced leads every live entity back to itself exactly then. -/
theorem inverse_unless_doubled :
    (∀ (model : Model Float) (receipt : CopyReceipt) (map : IndexMap), model.Reachable →
      IndexMap.build model receipt = .ok map →
        (map.vars.Accepted model.vars.ids receipt.vars ∧
          map.constraints.Accepted model.constraints.ids receipt.constraints) ∧
        (IndexTable.fill model.vars.ids receipt.vars).Mirrors map.vars ∧
          (IndexTable.fill model.constraints.ids receipt.constraints).Mirrors map.constraints) ∧
    ∀ (configuration : Configuration Factory) (world : World) (opening : Opening)
      (session : Recorded World Factory Instance), configuration.mode ≠ .direct →
      opening.action solver.recorded (unplayed configuration world) = .ok () session →
      ∀ operations, (finish solver.recorded session operations).state = .synced →
        ∃ target copied receipt,
          (finish solver.recorded session operations).link.live = some target ∧
          Transcript.lastCopy? (finish solver.recorded session operations).entries target.number =
            some (copied, .ok receipt) ∧
          ((∀ entity, (finish solver.recorded session operations).model.contains entity = true →
              LeadsBack solver.recorded (finish solver.recorded session operations) entity) ↔
            receipt.vars.Nodup ∧ receipt.constraints.Nodup) := by
  refine ⟨fun model receipt map reached built => ⟨?_, ?_⟩, ?_⟩
  · exact IndexMap.accepted_of_build reached built
  · have wellFormed := reached.wellFormed
    obtain ⟨vars, constraints⟩ := IndexMap.pairs_of_build built
    exact ⟨IndexTable.mirrors_fill wellFormed.vars.ids_nodup vars,
      IndexTable.mirrors_fill wellFormed.constraints.ids_nodup constraints⟩
  · intro configuration world opening session cached opened operations
    exact leadsBack_of_run cached opened operations

def twoVariables : Model Float :=
  [.addVariable .free .continuous, .addVariable .free .continuous].foldl Model.attempt .empty

def numberingSession (indices : List Nat) : Recorded Scripted.World String Scripted.Instance :=
  stateAfter (start Scripted.solver.recorded)
    (unplayed { factory := some "demo" } { scripts := [("demo", { vars := some indices })] })

def pairingOperations : List (Operation String) :=
  [.edit (.addVariable .free .continuous), .edit (.addVariable .free .continuous), .sync]

/-- Two indices that are crossed lead back, in the look-ups and in the session. -/
theorem inverse_unless_doubled_crossed :
    (∃ map, (twoVariables.Reachable ∧
        IndexMap.build twoVariables ⟨[⟨5⟩, ⟨3⟩], []⟩ = .ok map) ∧
      map.vars.Inverse twoVariables.vars.ids ∧
        (IndexTable.fill twoVariables.vars.ids [⟨5⟩, ⟨3⟩]).Mirrors map.vars) ∧
    (({ factory := some "demo" } : Configuration String).mode ≠ .direct ∧
      (finish Scripted.solver.recorded (numberingSession [5, 3]) pairingOperations).state =
        .synced) ∧
    ∀ entity, (finish Scripted.solver.recorded (numberingSession [5, 3])
          pairingOperations).model.contains entity = true →
        LeadsBack Scripted.solver.recorded
          (finish Scripted.solver.recorded (numberingSession [5, 3]) pairingOperations) entity := by
  have reached : twoVariables.Reachable := Model.Reachable.empty.foldl_attempt _
  obtain ⟨map, built⟩ : ∃ map,
      IndexMap.build twoVariables ⟨[⟨5⟩, ⟨3⟩], []⟩ = .ok map := ⟨_, rfl⟩
  have cached : ({ factory := some "demo" } : Configuration String).mode ≠ .direct := by decide
  have opened : Opening.fresh.action Scripted.solver.recorded
      (unplayed { factory := some "demo" } { scripts := [("demo", { vars := some [5, 3] })] }) =
        .ok () (numberingSession [5, 3]) := rfl
  have synced : (finish Scripted.solver.recorded (numberingSession [5, 3])
      pairingOperations).state = .synced := by decide +kernel
  have looked := @inverse_unless_doubled _ _ _ Scripted.solver
  obtain ⟨target, copied, receipt, live, last, leads⟩ :=
    looked.2 _ _ _ _ cached opened pairingOperations synced
  obtain ⟨accepted, mirrored, -⟩ := looked.1 _ _ _ reached built
  have received : receipt = ⟨[⟨5⟩, ⟨3⟩], []⟩ := by
    cases live
    cases last
    rfl
  refine ⟨⟨map, ⟨reached, built⟩, accepted.1.inverse_iff.mpr (by decide), mirrored⟩,
    ⟨cached, synced⟩, leads.mpr ?_⟩
  rw [received]
  decide

/-- A receipt that assigns one index to both variables is accepted.  The index leads back to the
second one, in the look-ups and in the session. -/
theorem not_inverse_doubled :
    (twoVariables.Reachable ∧
      ∃ map, IndexMap.build twoVariables ⟨[⟨7⟩, ⟨7⟩], []⟩ = .ok map ∧
        map.vars.index? ⟨0⟩ = some ⟨7⟩ ∧ map.vars.id? ⟨7⟩ = some ⟨1⟩ ∧
        ¬ map.vars.Inverse twoVariables.vars.ids) ∧
    (finish Scripted.solver.recorded (numberingSession [7, 7]) pairingOperations).state =
        .synced ∧
      (finish Scripted.solver.recorded (numberingSession [7, 7])
        pairingOperations).model.contains (.var ⟨0⟩) = true ∧
      ¬ LeadsBack Scripted.solver.recorded
        (finish Scripted.solver.recorded (numberingSession [7, 7]) pairingOperations)
        (.var ⟨0⟩) := by
  refine ⟨⟨Model.Reachable.empty.foldl_attempt _, _, rfl, rfl, rfl, ?_⟩, ?_, rfl, ?_⟩
  · intro inverse
    exact absurd inverse.size (by decide)
  · decide +kernel
  · rintro ⟨index, given, back⟩
    cases given
    cases back

end Session

end ConicModel
