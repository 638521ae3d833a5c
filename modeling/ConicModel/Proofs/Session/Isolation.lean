import ConicModel.Proofs.Session.Correspondence
import ConicModel.Proofs.Session.Disparity

/-!
Contract: a dual value of the wrong length concerns the constraints at its index and nothing else.

Owns:
- `Session.Twins`, two sessions that are synced with one model, in which the solvers agree so far;
- the fact that both solve, with records that differ in a dual value, or both fail;
- what is read alike afterwards, and what is not.

Does not own: how the records come to differ, or what a read takes from a record.
-/

namespace ConicModel

variable {World Factory Instance World' Factory' Instance' : Type}

/-! ## Two sessions -/

namespace Session

/-- Two sessions that are synced with one model and have one correspondence, and whose solvers
agree so far. -/
structure Twins (agree : World → World' → Prop) (target : Instance) (target' : Instance')
    (map : IndexMap) (left : Session World Factory Instance)
    (right : Session World' Factory' Instance') : Prop where
  cached : left.isCached = true
  mode : right.link.mode = left.link.mode
  synced : left.state = .synced
  model : right.model = left.model
  copied : left.link.map = some map
  copied' : right.link.map = some map
  live : left.link.live = some target
  live' : right.link.live = some target'
  agreed : agree left.link.world right.link.world

/-- Two sessions with linked links and one model, to which the correspondence belongs. -/
structure Joined (agree : World → World' → Prop) (target : Instance) (target' : Instance')
    (map : IndexMap) (model : Model Float) (left : Session World Factory Instance)
    (right : Session World' Factory' Instance') : Prop where
  linked : Link.Linked agree target target' map left.link right.link
  holds : left.model = model
  holds' : right.model = model

variable {agree : World → World' → Prop} {target : Instance} {target' : Instance'}
  {map : IndexMap} {model : Model Float} {first : Solver World Factory Instance}
  {second : Solver World' Factory' Instance'} {left : Session World Factory Instance}
  {right : Session World' Factory' Instance'}

theorem Joined.withoutRecord (joined : Joined agree target target' map model left right) :
    Joined agree target target' map model left.withoutRecord right.withoutRecord :=
  ⟨joined.linked, joined.holds, joined.holds'⟩

theorem Twins.joined (twins : Twins agree target target' map left right) :
    Joined agree target target' map left.model left right where
  linked := ⟨twins.agreed, twins.cached, (congrArg Mode.isCached twins.mode).trans twins.cached,
    twins.live, twins.live', twins.copied, twins.copied'⟩
  holds := rfl
  holds' := twins.model

/-- The correspondence of synced sessions belongs to their model. -/
theorem Twins.isCurrent (twins : Twins agree target target' map left right) :
    map.isCurrent left.model = true := by
  have keeps : left.link.mode ≠ .direct := not_direct_of_cached twins.cached
  have synced : left.link.state left.model = .synced := twins.synced
  obtain ⟨found, present, generation⟩ := Link.current_of_synced keeps synced
  cases twins.copied.symm.trans present
  exact beq_iff_eq.mpr generation

theorem accords_onLink {α β : Type} {same : α → β → Prop}
    {action : Model Float → Link.Action World Factory Instance α}
    {action' : Model Float → Link.Action World' Factory' Instance' β}
    (accords : Accords (Link.Linked agree target target' map) (action model) (action' model)
      same) :
    Accords (Joined agree target target' map model) (onLink action) (onLink action') same := by
  rintro left right ⟨linked, holds, holds'⟩
  unfold onLink
  rw [holds, holds']
  obtain ⟨value, link, other, link', firstEnd, secondEnd, alike, linked⟩ |
    ⟨cause, link, link', firstEnd, secondEnd, linked⟩ := accords.cases linked
  · rw [firstEnd, secondEnd]
    exact ⟨alike, linked, rfl, rfl⟩
  · rw [firstEnd, secondEnd]
    exact ⟨rfl, linked, rfl, rfl⟩

theorem accords_requireLive :
    Accords (Link.Linked agree target target' map)
      (Link.requireLive : Link.Action World Factory Instance Instance)
      (Link.requireLive : Link.Action World' Factory' Instance' Instance')
      fun found found' => found = target ∧ found' = target' := by
  refine accords_ofState fun left right linked => ?_
  rw [linked.live, linked.live']
  exact accords_pure ⟨rfl, rfl⟩

/-- A link that holds a copy of the model is prepared as it is. -/
theorem prepare_of_copied {solver : Solver World Factory Instance}
    {link : Link World Factory Instance} (live : link.live = some target)
    (copied : link.map = some map) (current : map.isCurrent model = true) :
    Link.prepare solver model link = .ok () link := by
  have ended : Ends (Link.prepare solver model) link (fun _ after => after = link)
      fun _ _ => False :=
    ends_prepare_of_synced (Link.state_of_current live copied current)
  unfold Ends at ended
  split at ended
  · rename_i done
    rw [done, ended]
  · exact ended.elim

theorem accords_prepare (current : map.isCurrent model = true) :
    Accords (Link.Linked agree target target' map) (Link.prepare first model)
      (Link.prepare second model) fun _ _ => True :=
  accords_of_ok fun _ _ linked => ⟨(), _, (), _,
    prepare_of_copied linked.live linked.copied current,
    prepare_of_copied linked.live' linked.copied' current, trivial, linked⟩

def solve (solver : Solver World Factory Instance) :
    Action World Factory Instance ResultRecord := do
  onLink (Link.prepare solver)
  runSolver solver
  collect solver

def keep (mode : String) (record : ResultRecord) : Action World Factory Instance Unit := do
  reportAll [.solved mode record.summary.termination.word record.summary.primalStatus.word
    record.summary.dualStatus.word record.generation]
  modify fun session => { session with record := some record }

section Optimize

variable {solver : Solver World Factory Instance} {session ready : Session World Factory Instance}
  (cached : session.isCached = true)
include cached

theorem optimize_of_cached :
    optimize solver session =
      (solve solver >>= keep session.link.mode.word) session.withoutRecord := by
  show (if session.isCached = true then _ else _ : Action World Factory Instance Unit)
    session.withoutRecord = _
  rw [if_pos cached]
  simp only [solve, bind_assoc]
  rfl

theorem step_optimize_of_ok {record : ResultRecord}
    (solved : solve solver session.withoutRecord = .ok record ready)
    (still : ready.isCached = true) (generation : record.generation = ready.model.generation) :
    (step solver session .optimize).outcome = .ok .done ∧
      Recalls record ready.model (step solver session .optimize).after := by
  have ended : ∃ after, perform solver .optimize session = .ok .done after ∧
      Recalls record ready.model after := by
    refine ⟨_, bind_of_ok ((optimize_of_cached cached).trans (bind_of_ok solved)), ?_⟩
    exact ⟨⟨still, rfl, generation⟩, rfl⟩
  obtain ⟨after, done, recalls⟩ := ended
  unfold step outcomeOf stateAfter
  rw [done]
  exact ⟨rfl, recalls⟩

theorem step_optimize_of_error {cause : Error}
    (failed : solve solver session.withoutRecord = .error cause ready) :
    (step solver session .optimize).outcome = .error cause := by
  have ended : perform solver .optimize session = .error cause ready :=
    bind_of_error ((optimize_of_cached cached).trans (bind_of_error failed))
  unfold step outcomeOf
  rw [ended]

end Optimize

section Solve

variable {index : ConstraintIndex} {set : ConstraintSet Float} {received : Nat}
  (differ : first.DifferInDual target second target' agree index set received)
include differ

theorem accords_runSolver :
    Accords (Joined agree target target' map model) (runSolver first) (runSolver second) Eq := by
  unfold runSolver callLive
  apply accords_onLink
  apply accords_bind accords_requireLive
  rintro _ _ ⟨rfl, rfl⟩
  exact Link.accords_call differ.solves

theorem accords_collect {id : ConstraintId} (mapped : map.constraints.index? id = some index)
    {entry : Entry .con (Constraint Float)} (present : model.constraints.entry? id = some entry)
    (is : entry.content.set = set) :
    Accords (Joined agree target target' map model) (collect first) (collect second)
      (ResultRecord.DiffersInDual model map index id set received) := by
  unfold collect
  apply accords_onLink
  apply accords_ofState
  intro left right linked
  rw [linked.copied, linked.copied']
  apply accords_bind accords_requireLive
  rintro _ _ ⟨rfl, rfl⟩
  exact Link.accords_collect differ mapped present is

/-- Both sessions come to a record, or both are refused for one cause. -/
theorem accords_solve {id : ConstraintId} (mapped : map.constraints.index? id = some index)
    {entry : Entry .con (Constraint Float)} (present : model.constraints.entry? id = some entry)
    (is : entry.content.set = set) (current : map.isCurrent model = true) :
    Accords (Joined agree target target' map model) (solve first) (solve second)
      (ResultRecord.DiffersInDual model map index id set received) := by
  apply accords_bind (accords_onLink (accords_prepare current))
  rintro _ _ -
  apply accords_bind (accords_runSolver differ)
  rintro _ _ -
  exact accords_collect differ mapped present is

theorem optimize_together (twins : Twins agree target target' map left right) {id : ConstraintId}
    (mapped : map.constraints.index? id = some index)
    {entry : Entry .con (Constraint Float)}
    (present : left.model.constraints.entry? id = some entry) (is : entry.content.set = set) :
    (∃ record record', record.DiffersInDual left.model map index id set received record' ∧
        (step first left .optimize).outcome = .ok .done ∧
        (step second right .optimize).outcome = .ok .done ∧
        Recalls record left.model (step first left .optimize).after ∧
        Recalls record' left.model (step second right .optimize).after) ∨
      ∃ cause, (step first left .optimize).outcome = .error cause ∧
        (step second right .optimize).outcome = .error cause := by
  have cached : left.isCached = true := twins.joined.linked.cached
  have cached' : right.isCached = true := twins.joined.linked.cached'
  have accords := accords_solve differ mapped present is twins.isCurrent
  obtain ⟨record, ready, record', ready', solved, solved', differs, joined⟩ |
    ⟨cause, ready, ready', failed, failed', -⟩ := accords.cases twins.joined.withoutRecord
  · obtain ⟨done, recalls⟩ := step_optimize_of_ok cached solved joined.linked.cached
      (differs.generation.trans (congrArg Model.generation joined.holds.symm))
    obtain ⟨done', recalls'⟩ := step_optimize_of_ok cached' solved' joined.linked.cached'
      (differs.generation'.trans (congrArg Model.generation joined.holds'.symm))
    rw [joined.holds] at recalls
    rw [joined.holds'] at recalls'
    exact .inl ⟨record, record', differs, done, done', recalls, recalls'⟩
  · exact .inr ⟨cause, step_optimize_of_error cached failed, step_optimize_of_error cached' failed'⟩

end Solve

/-- A dual value of the wrong length is a matter of its own index.  Take two sessions that are
synced with one model, and two solvers that answer alike but for the dual value under the index of
a live constraint, which has the right length for the set of the constraint in the first session
only.  Then solving comes to the same in both.  When it succeeds, all results are read alike but
for dual values under that index; and if there are dual values, that of the constraint can be read
in the first session only, while the second says how long it should have been and how long it
was. -/
theorem malformed_dual_isolated {index : ConstraintIndex} {constraint : Constraint Float}
    {received : Nat}
    (differ : first.DifferInDual target second target' agree index constraint.set received)
    (twins : Twins agree target target' map left right) {id : ConstraintId}
    (live : left.model.getConstraint id = .ok constraint)
    (mapped : map.constraints.index? id = some index) :
    let solved := step first left .optimize
    let solved' := step second right .optimize
    solved'.outcome = solved.outcome ∧ ∀ answer, solved.outcome = .ok answer →
      (∀ result : ResultRead,
        (∀ other, result.dualOf? = some other → map.constraints.index? other ≠ some index) →
          (step second solved'.after (.read result)).outcome =
            (step first solved.after (.read result)).outcome) ∧
      ∀ status, (step second solved'.after (.read .dualStatus)).outcome = .ok (.status status) →
        status.hasValues = true →
          (step first solved.after (.read (.hasDual (.con id)))).outcome = .ok (.flag true) ∧
          (step second solved'.after (.read (.hasDual (.con id)))).outcome = .ok (.flag false) ∧
          (step second solved'.after (.read (.dual (.con id)))).outcome =
            .error (.decode ⟨constraint.set.name, constraint.set.dimension, received⟩) := by
  intro solved solved'
  have found : left.model.constraints.content? id = some constraint :=
    Model.getConstraint_eq_ok.mp live
  have held : left.model.constraints.contains id = true :=
    Registry.content?_isSome_iff.mp (found ▸ rfl)
  obtain ⟨entry, present, is⟩ := Option.map_eq_some_iff.mp found
  obtain ⟨record, record', differs, done, done', recalls, recalls'⟩ | ⟨cause, failed, failed'⟩ :=
    optimize_together differ twins mapped present (congrArg Constraint.set is)
  · refine ⟨done'.trans done.symm, fun _ _ => ?_⟩
    have answers : ∀ result, (step first solved.after (.read result)).outcome =
        record.answerTo left.model result :=
      fun result => outcome_of_comes (comes_recalled result) recalls
    have answers' : ∀ result, (step second solved'.after (.read result)).outcome =
        record'.answerTo left.model result :=
      fun result => outcome_of_comes (comes_recalled result) recalls'
    refine ⟨fun result apart => ?_, fun status told values => ?_⟩
    · rw [answers, answers', differs.answerTo_eq result apart]
    · rw [answers'] at told
      cases told
      have values : record.summary.dualStatus.hasValues = true := differs.summary ▸ values
      rw [answers, answers', answers']
      exact ⟨(differs.answerTo_hasDual values).1, (differs.answerTo_hasDual values).2,
        (differs.answerTo_dual values held).2⟩
  · refine ⟨failed'.trans failed.symm, fun answer done => ?_⟩
    cases failed.symm.trans done

/-! ## Two solvers that give weights -/

/-- A solver that finds a point and gives each constraint one number as its dual value, but the
first constraint as many as it is made for. -/
def weighing (size : Nat) : Solver Unit Unit Unit where
  create := fun _ => return ()
  name := fun _ => "weighing"
  empty := fun _ => return ()
  copyModel := fun _ model => return .dense model.vars.size model.constraints.size
  optimize := fun _ => return ()
  get := fun _ wanted =>
    match wanted with
    | .terminationStatus => return .termination .optimal
    | .primalStatus => return .result .feasiblePoint
    | .dualStatus => return .result .feasiblePoint
    | .variablePrimal _ => return .float 1.5
    | .constraintDual index =>
      return .vector (List.replicate (if index = ⟨0⟩ then size else 1) 2)
    | _ => throw wanted.unsupported
  set := fun _ wanted _ => throw wanted.unsupported
  close := fun _ _ => ()

theorem differInDual_weighing :
    (weighing 2).DifferInDual () (weighing 3) () Eq ⟨0⟩ (.cone .nonnegatives 2) 3 where
  solves := accords_refl _
  others := by
    intro wanted other
    have same : (weighing 3).get () wanted = (weighing 2).get () wanted := by
      cases wanted with
      | constraintDual index =>
        have apart : index ≠ ⟨0⟩ := fun same => other (congrArg Attribute.constraintDual same)
        simp only [weighing, if_neg apart]
      | _ => rfl
    rw [same]
    exact accords_refl _
  dual := by
    rintro world _ rfl
    exact ⟨.vector [2, 2], world, [2, 2], .vector [2, 2, 2], world, [2, 2, 2], rfl, rfl, rfl, rfl,
      rfl, rfl, rfl⟩
  malformed := by decide

def nonnegativeParts : ConstraintFunction Float :=
  .vector [⟨0, [(⟨0⟩, 1)], []⟩, ⟨0, [(⟨1⟩, 1)], []⟩]

def boundedSum : ConstraintFunction Float :=
  .scalar ⟨0, [(⟨0⟩, 1), (⟨1⟩, 1)], []⟩

/-- Two variables that are to be nonnegative, and a bound on their sum. -/
def weighedOperations : List (Operation Unit) :=
  [.edit (.addVariable .free .continuous), .edit (.addVariable .free .continuous),
    .edit (.addConstraint ⟨nonnegativeParts, .cone .nonnegatives 2⟩),
    .edit (.addConstraint ⟨boundedSum, .lessThan 4⟩), .sync]

def weighedSession (size : Nat) : Session Unit Unit Unit :=
  finish (weighing size) (stateAfter (start (weighing size)) (idle { factory := some () } ()))
    weighedOperations

def weighedModel : Model Float where
  vars := ⟨[⟨⟨0⟩, ⟨.free, .continuous⟩, none, none⟩, ⟨⟨1⟩, ⟨.free, .continuous⟩, none, none⟩], 2⟩
  constraints := ⟨[⟨⟨0⟩, ⟨nonnegativeParts, .cone .nonnegatives 2⟩, none, none⟩,
    ⟨⟨1⟩, ⟨boundedSum, .lessThan 4⟩, none, none⟩], 2⟩
  generation := 4

def weighedMap : IndexMap :=
  ⟨4, ⟨[(⟨0⟩, ⟨0⟩), (⟨1⟩, ⟨1⟩)]⟩, ⟨[(⟨0⟩, ⟨0⟩), (⟨1⟩, ⟨1⟩)]⟩⟩

theorem twins_weighed : Twins Eq () () weighedMap (weighedSession 2) (weighedSession 3) where
  cached := by decide +kernel
  mode := by decide +kernel
  synced := by decide +kernel
  model :=
    have first : (weighedSession 2).model = weighedModel := rfl
    have second : (weighedSession 3).model = weighedModel := rfl
    second.trans first.symm
  copied := rfl
  copied' := rfl
  live := rfl
  live' := rfl
  agreed := rfl

def tellsSolution : Except Error Answer → Bool
  | .ok (.status status) => status.hasValues
  | _ => false

theorem exists_of_tellsSolution {outcome : Except Error Answer}
    (tells : tellsSolution outcome = true) :
    ∃ status, outcome = .ok (.status status) ∧ status.hasValues = true := by
  unfold tellsSolution at tells
  split at tells
  · exact ⟨_, rfl, tells⟩
  · cases tells

/-- Both solvers solve.  The bound on the sum has the same dual value with both, and that of the
cone is missing with the second. -/
theorem malformed_dual_isolated_weighing :
    let solved := step (weighing 2) (weighedSession 2) .optimize
    let solved' := step (weighing 3) (weighedSession 3) .optimize
    ((weighing 2).DifferInDual () (weighing 3) () Eq ⟨0⟩ (.cone .nonnegatives 2) 3 ∧
        Twins Eq () () weighedMap (weighedSession 2) (weighedSession 3) ∧
        (weighedSession 2).model.getConstraint ⟨0⟩ =
          .ok ⟨nonnegativeParts, .cone .nonnegatives 2⟩ ∧
        weighedMap.constraints.index? ⟨0⟩ = some ⟨0⟩) ∧
      (∃ answer, solved'.outcome = .ok answer) ∧
      (step (weighing 3) solved'.after (.read (.dual (.con ⟨1⟩)))).outcome =
        (step (weighing 2) solved.after (.read (.dual (.con ⟨1⟩)))).outcome ∧
      (step (weighing 2) solved.after (.read (.hasDual (.con ⟨0⟩)))).outcome = .ok (.flag true) ∧
      (step (weighing 3) solved'.after (.read (.hasDual (.con ⟨0⟩)))).outcome = .ok (.flag false) ∧
      (step (weighing 3) solved'.after (.read (.dual (.con ⟨0⟩)))).outcome =
        .error (.decode ⟨"Nonnegatives", 2, 3⟩) := by
  intro solved solved'
  have live : (weighedSession 2).model.getConstraint ⟨0⟩ =
      .ok ⟨nonnegativeParts, .cone .nonnegatives 2⟩ := rfl
  have mapped : weighedMap.constraints.index? ⟨0⟩ = some ⟨0⟩ := rfl
  have succeeds : solved.outcome.isOk = true := by decide +kernel
  have tells : tellsSolution (step (weighing 3) solved'.after (.read .dualStatus)).outcome =
      true := by
    decide +kernel
  obtain ⟨answer, done⟩ := exists_of_isOk succeeds
  obtain ⟨status, told, values⟩ := exists_of_tellsSolution tells
  obtain ⟨alike, isolated⟩ :=
    malformed_dual_isolated differInDual_weighing twins_weighed live mapped
  obtain ⟨elsewhere, here⟩ := isolated answer done
  refine ⟨⟨differInDual_weighing, twins_weighed, live, mapped⟩, ⟨answer, alike.trans done⟩, ?_,
    here status told values⟩
  apply elsewhere
  rintro _ ⟨⟩
  decide

end Session

end ConicModel
