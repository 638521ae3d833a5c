import ConicModel.Proofs.Session.Frame
import ConicModel.Proofs.Session.Run

/-!
Contract: what becomes of the record in a session with a model.

Owns:
- `Effect`, which covers every way in which a step can treat the record;
- the fact that a session starts without a record.

Does not own: reading results.
-/

namespace ConicModel.Session

variable {World Factory Instance : Type}

/-- Refused because the operation does not go together with the mode or the factory. -/
def Misplaced (outcome : Except Error Answer) : Prop :=
  ∃ fault, outcome = .error (.configuration fault)

/-- How a step treats the record: it leaves it, forgets it, or writes a new one. -/
inductive Effect (operation : Operation Factory) (outcome : Except Error Answer)
    (before after : Session World Factory Instance) : Prop where
  | leaves (stays : operation.isLifecycle = false)
      (unsolved : operation.isSolve = true → Misplaced outcome)
      (record : after.record = before.record)
  | forgets (cause : operation.isLifecycle = true ∨
        operation.isSolve = true ∧ ∃ cause, outcome = .error cause)
      (record : after.record = none)
  | writes (solve : operation.isSolve = true) (done : ∃ answer, outcome = .ok answer)
      (record : ∃ found, after.record = some found ∧ found.generation = before.model.generation)

/-- A step of a session with a model: the model evolves, the session keeps it, and the
record is treated in one of the ways of `Effect`. -/
structure Regular (operation : Operation Factory) (outcome : Except Error Answer)
    (before after : Session World Factory Instance) : Prop where
  model : Model.Evolves before.model after.model
  link : Link.Steady before.link after.link
  effect : Effect operation outcome before after

section Regular

variable {before after : Session World Factory Instance} {operation : Operation Factory}
  {outcome : Except Error Answer}

theorem Kept.regular (kept : Kept before after) (stays : operation.isLifecycle = false)
    (unsolved : operation.isSolve = false) : Regular operation outcome before after where
  model := by
    rw [kept.model]
    exact .refl _
  link := kept.link
  effect := .leaves stays (fun solve => absurd solve (by rw [unsolved]; decide)) kept.record

theorem Kept.regular_forgets (kept : Kept before.withoutRecord after)
    (cause : operation.isLifecycle = true ∨
      operation.isSolve = true ∧ ∃ cause, outcome = .error cause) :
    Regular operation outcome before after where
  model := by
    rw [kept.model]
    exact .refl _
  link := kept.link
  effect := .forgets cause kept.record

theorem Edited.regular (edited : Edited before after) {edit : Model.Edit Float} :
    Regular (.edit edit : Operation Factory) outcome before after :=
  ⟨edited.model, edited.steady, .leaves rfl nofun edited.record⟩

theorem Solved.regular (solved : Solved before after) (solve : operation.isSolve = true)
    (answer : Answer) : Regular operation (.ok answer) before after where
  model := by
    rw [solved.model]
    exact .refl _
  link := solved.link
  effect := .writes solve ⟨answer, rfl⟩ solved.record

end Regular

theorem regular_perform (solver : Solver World Factory Instance)
    {session : Session World Factory Instance} (cached : session.isCached = true)
    (operation : Operation Factory) :
    Ends (perform solver operation) session
      (fun answer after => Regular operation (.ok answer) session after)
      fun cause after => Regular operation (.error cause) session after := by
  rcases operation.kinds with ⟨change, rfl⟩ | plain | lifecycle | rfl | ⟨factory, rfl⟩
  · apply ends_bind
    unfold Ends
    rw [edit_of_cached cached]
    refine (edited_editModel change session).mono ?_ fun _ _ edited => edited.regular
    intro created after edited
    cases created <;> exact edited.regular
  · obtain ⟨stays, unsolved⟩ := Operation.of_plain plain
    exact (manages_perform plain session).mono
      (fun _ _ moved => moved.kept.regular stays unsolved)
      fun _ _ moved => moved.kept.regular stays unsolved
  · exact (forgets_perform lifecycle).mono
      (fun _ _ moved => moved.kept.regular_forgets (.inl lifecycle))
      fun _ _ moved => moved.kept.regular_forgets (.inl lifecycle)
  · exact (ends_done (solved_optimize cached)).mono
      (fun answer _ solved => solved.regular rfl answer)
      fun cause _ kept => kept.regular_forgets (.inr ⟨rfl, cause, rfl⟩)
  · refine (ends_done (solved_optimizeWith cached factory)).mono
      (fun answer _ solved => solved.regular rfl answer) ?_
    rintro cause after (⟨⟨fault, rfl⟩, rfl⟩ | kept)
    · exact ⟨.refl _, refl_of Link.Steady _, .leaves rfl (fun _ => ⟨fault, rfl⟩) rfl⟩
    · exact kept.regular_forgets (.inr ⟨rfl, cause, rfl⟩)

theorem regular_step (solver : Solver World Factory Instance)
    {session : Session World Factory Instance} (cached : session.isCached = true)
    (operation : Operation Factory) :
    Regular operation (step solver session operation).outcome session
      (step solver session operation).after :=
  Step.of_ends (fun outcome after => Regular operation outcome session after)
    (regular_perform solver cached operation)

/-! ## The start -/

theorem Opened.unrecorded {solver : Solver World Factory Instance}
    {session : Session World Factory Instance} (opened : Opened solver session) :
    session.record = none := by
  cases opened with
  | start configuration world opening done =>
    have opens : Ends (opening.action solver) (idle configuration world)
        (fun _ after => after.record = none) fun _ _ => True := by
      apply ends_opening opening fun _ => trivial
      intro model events
      exact (manages_onLink (fun _ => Link.manages_start) _).mono
        (fun _ _ moved => moved.kept.record) fun _ _ _ => trivial
    exact opens.of_ok done

end ConicModel.Session
