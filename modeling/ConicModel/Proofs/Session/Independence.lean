import ConicModel.Proofs.Model.Numbering
import ConicModel.Proofs.Session.Frame
import ConicModel.Proofs.Session.Run
import ConicModel.Solver.Scripted

/-!
Contract: in a session with a model, the model and the answers to changes of it depend on
nothing but the model and the changes.

Owns:
- the models that sessions start with;
- the changes among the operations of a run, and what came of them;
- the projection of a run to its changes, which the model alone answers;
- the fact that two runs with the same changes cannot be told apart by their models.

Does not own: what a change does.

The two runs may differ in everything else: in mode, solver, factory and settings, in the other
operations, and in where these fail.
-/

namespace ConicModel.Session

variable {World Factory Instance : Type}

/-! ## The model at the start -/

/-- A session starts with the empty model or with one that was read, whatever the solver
does. -/
theorem initial_opening {solver : Solver World Factory Instance} (opening : Opening)
    (configuration : Configuration Factory) (world : World) :
    Ends (opening.action solver) (idle configuration world) (fun _ after => after.model.Initial)
      fun _ _ => True := by
  have starts : ∀ now : Session World Factory Instance, now.model.Initial →
      Ends (start solver) now (fun _ after => after.model.Initial) fun _ _ => True := by
    intro now initial
    refine (manages_onLink (fun _ => Link.manages_start) now).mono ?_ fun _ _ _ => trivial
    intro _ after moved
    exact moved.kept.model ▸ initial
  cases opening with
  | fresh => exact starts _ .empty
  | fromText text =>
    apply ends_bind
    apply ends_get
    dsimp only
    split
    · exact ends_throw trivial
    · split
      · apply ends_bind
        apply ends_modify
        exact ends_throw trivial
      · rename_i reader read
        have accepted : Model.ofText text = .ok reader.model := by
          unfold Model.ofText
          rw [read]
        apply ends_bind
        apply ends_modify
        apply ends_bind
        apply ends_modify
        exact starts _ (.read accepted)

/-! ## Changes of a run -/

def Operation.change? : Operation Factory → Option (Model.Edit Float)
  | .edit change => some change
  | _ => none

def changesOf (operations : List (Operation Factory)) : List (Model.Edit Float) :=
  operations.filterMap Operation.change?

def changes (history : List (Step World Factory Instance)) :
    List (Model.Edit Float × Except Error Answer) :=
  history.filterMap fun step => step.operation.change?.map fun change => (change, step.outcome)

def Answer.ofCreated : Option EntityRef → Answer
  | some new => .entity new
  | none => .done

def told : Except (ModelError Float) (Option EntityRef) → Except Error Answer
  | .ok created => .ok (.ofCreated created)
  | .error cause => .error (.model cause)

/-! ## Steps -/

section Step

variable {solver : Solver World Factory Instance} {session : Session World Factory Instance}

/-- A change ends as the model says, and is attempted whether or not it is refused. -/
theorem ends_editModel (edit : Model.Edit Float) :
    Ends (editModel edit) session
      (fun created after => (session.model.apply edit).map Model.Outcome.created = .ok created ∧
        after.model = session.model.attempt edit)
      fun error after => (∃ cause, error = .model cause ∧ session.model.apply edit = .error cause) ∧
        after.model = session.model.attempt edit := by
  apply ends_bind
  apply ends_get
  apply ends_bind
  apply ends_modify
  split
  · rename_i cause refused
    exact ends_throw ⟨⟨cause, rfl, refused⟩, (Model.attempt_of_error refused).symm⟩
  · rename_i outcome applied
    apply ends_bind
    apply ends_modify
    refine ends_pure ⟨?_, (Model.attempt_of_ok applied).symm⟩
    rw [applied]
    rfl

variable (solver) in
/-- The answer to a change and the model after it are those of the model. -/
theorem step_edit (cached : session.isCached = true) (edit : Model.Edit Float) :
    (step solver session (.edit edit)).outcome =
        told ((session.model.apply edit).map Model.Outcome.created) ∧
      (step solver session (.edit edit)).after.model = session.model.attempt edit := by
  refine Step.of_ends (fun outcome after =>
    outcome = told ((session.model.apply edit).map Model.Outcome.created) ∧
      after.model = session.model.attempt edit) ?_
  apply ends_bind
  unfold Ends
  rw [edit_of_cached cached]
  refine (ends_editModel edit).mono ?_ ?_
  · rintro created after ⟨answered, made⟩
    rw [answered]
    cases created <;> exact ⟨rfl, made⟩
  · rintro _ after ⟨⟨cause, rfl, refused⟩, made⟩
    rw [refused]
    exact ⟨rfl, made⟩

/-- What is not a change leaves the model alone, also where it fails. -/
theorem model_step (cached : session.isCached = true) {operation : Operation Factory}
    (other : operation.change? = none) : (step solver session operation).after.model =
      session.model := by
  refine Step.of_ends (fun _ after => after.model = session.model) ?_
  rcases operation.kinds with ⟨change, rfl⟩ | plain | lifecycle | rfl | ⟨factory, rfl⟩
  · cases other
  · exact (manages_perform plain session).mono (fun _ _ moved => moved.kept.model)
      fun _ _ moved => moved.kept.model
  · exact (forgets_perform lifecycle).mono (fun _ _ moved => moved.kept.model)
      fun _ _ moved => moved.kept.model
  · exact (ends_done (solved_optimize cached)).mono (fun _ _ solved => solved.model)
      fun _ _ kept => kept.model
  · refine (ends_done (solved_optimizeWith cached factory)).mono (fun _ _ solved => solved.model) ?_
    rintro _ after (⟨_, rfl⟩ | kept)
    · rfl
    · exact kept.model

theorem isCached_step (operation : Operation Factory) :
    (step solver session operation).after.isCached = session.isCached := by
  have steady : Steady session (step solver session operation).after :=
    (steady_perform operation).stateAfter session
  exact congrArg Mode.isCached steady.mode

end Step

/-! ## Runs -/

theorem isCached_finish {solver : Solver World Factory Instance}
    (session : Session World Factory Instance) (operations : List (Operation Factory)) :
    (finish solver session operations).isCached = session.isCached := by
  induction operations generalizing session with
  | nil => rfl
  | cons operation others inductionHypothesis =>
    exact (inductionHypothesis _).trans (isCached_step operation)

/-- The projection of a run: its changes are answered one after another as the model alone
answers them, and the model at the end is what they make of it. -/
theorem changes_history (solver : Solver World Factory Instance)
    {session : Session World Factory Instance}
    (cached : session.isCached = true) (operations : List (Operation Factory)) :
    changes (history solver session operations) =
        (session.model.trail (changesOf operations)).map
          (fun result => (result.1, told result.2)) ∧
      (finish solver session operations).model =
        (changesOf operations).foldl Model.attempt session.model := by
  induction operations generalizing session with
  | nil => exact ⟨rfl, rfl⟩
  | cons operation others inductionHypothesis =>
    have stays : (step solver session operation).after.isCached = true :=
      (isCached_step operation).trans cached
    obtain ⟨answers, final⟩ := inductionHypothesis stays
    cases asked : operation.change? with
    | none =>
      rw [model_step cached asked] at answers final
      have skipped : changesOf (operation :: others) = changesOf others :=
        List.filterMap_cons_none asked
      rw [skipped, ← answers]
      refine ⟨List.filterMap_cons_none ?_, final⟩
      show Option.map _ operation.change? = none
      rw [asked]
      rfl
    | some edit =>
      obtain rfl : operation = .edit edit := by
        cases operation <;> cases asked
        rfl
      obtain ⟨answered, made⟩ := step_edit solver cached edit
      rw [made] at answers final
      refine ⟨?_, final⟩
      show (edit, (step solver session (.edit edit)).outcome) :: changes (history ..) =
        (edit, told _) :: List.map _ (Model.trail ..)
      rw [answered, answers]
      rfl

theorem reachable_of_run {solver : Solver World Factory Instance}
    {session : Session World Factory Instance} (cached : session.isCached = true)
    (reached : session.model.Reachable) (operations : List (Operation Factory)) :
    (finish solver session operations).model.Reachable := by
  rw [(changes_history solver cached operations).2]
  exact reached.foldl_attempt _

/-- Runs of two sessions with a model that start with the same model and ask for the same
changes give the same answers to them and end with the same model, whatever solvers they have
and whatever else they do. -/
theorem changes_independent {World' Factory' Instance' : Type}
    (solver : Solver World Factory Instance) (solver' : Solver World' Factory' Instance')
    {left : Session World Factory Instance} {right : Session World' Factory' Instance'}
    (leftCached : left.isCached = true) (rightCached : right.isCached = true)
    (sameModel : left.model = right.model) {leftOperations : List (Operation Factory)}
    {rightOperations : List (Operation Factory')}
    (sameChanges : changesOf leftOperations = changesOf rightOperations) :
    changes (history solver left leftOperations) =
        changes (history solver' right rightOperations) ∧
      (finish solver left leftOperations).model =
        (finish solver' right rightOperations).model := by
  obtain ⟨leftAnswers, leftModel⟩ := changes_history solver leftCached leftOperations
  obtain ⟨rightAnswers, rightModel⟩ := changes_history solver' rightCached rightOperations
  rw [leftAnswers, leftModel, rightAnswers, rightModel, sameModel, sameChanges]
  exact ⟨rfl, rfl⟩

/-! ## A solver that works and one that fails -/

def obligingSession : Session Scripted.World String Scripted.Instance :=
  stateAfter (start Scripted.solver) (idle { factory := some "demo" } {})

/-- A session in manual mode whose solvers cannot be created, or refuse every copy. -/
def obstructedSession : Session Scripted.World String Scripted.Instance :=
  stateAfter (start Scripted.solver) (idle { mode := .manual }
    { scripts := [("absent", { createError := some (.createFailed "absent") }),
      ("stubborn", { copyError := some (.internal "no") })] })

/-- A constraint is refused and a variable is removed, between solves. -/
def obligingOperations : List (Operation String) :=
  [.edit (.addVariable .free .continuous), .optimize,
    .edit (.addConstraint ⟨.scalar ⟨0, [(⟨7⟩, 1)], []⟩, .lessThan 4⟩), .backendIndex (.var ⟨0⟩),
    .edit (.setMetadata (.var ⟨0⟩) (.bool true)), .edit (.remove (.var ⟨0⟩)), .optimize]

/-- The same changes, between attempts to attach a solver and to copy into it. -/
def obstructedOperations : List (Operation String) :=
  [.attach "absent", .edit (.addVariable .free .continuous), .attach "stubborn", .sync,
    .edit (.addConstraint ⟨.scalar ⟨0, [(⟨7⟩, 1)], []⟩, .lessThan 4⟩), .read (.value ⟨0⟩),
    .edit (.setMetadata (.var ⟨0⟩) (.bool true)), .optimize, .edit (.remove (.var ⟨0⟩))]

theorem changes_independent_of_obstruction :
    (obligingSession.isCached = true ∧ obstructedSession.isCached = true ∧
        obligingSession.model = obstructedSession.model ∧
        changesOf obligingOperations = changesOf obstructedOperations) ∧
      changes (history Scripted.solver obligingSession obligingOperations) =
        changes (history Scripted.solver obstructedSession obstructedOperations) ∧
      (finish Scripted.solver obligingSession obligingOperations).model =
        (finish Scripted.solver obstructedSession obstructedOperations).model :=
  ⟨⟨rfl, rfl, rfl, rfl⟩, changes_independent Scripted.solver Scripted.solver rfl rfl rfl rfl⟩

end ConicModel.Session
