import ConicModel.Proofs.Model.Atomicity
import ConicModel.Proofs.Session.Staleness
import ConicModel.Proofs.Session.Synchrony

/-!
Contract: changes that are refused.

Owns:
- the fact that a refused change leaves a model as it was, although nothing is taken back;
- the fact that in a session with a model it leaves the link and the record as they were, and
  calls no solver.

Does not own: which changes are refused.
-/

namespace ConicModel.Session

section Step

variable {World Factory Instance : Type} {solver : Solver World Factory Instance}
  {session : Session World Factory Instance} {edit : Model.Edit Float}

def withReports (session : Session World Factory Instance) (events : List Event) :
    Session World Factory Instance :=
  { session with link := { session.link with events := session.link.events ++ events } }

/-- All that is left of a change that the model refuses is what was reported. -/
theorem ends_editModel_refused :
    Ends (editModel edit) session (fun _ _ => True) fun error after =>
      (∃ cause, error = .model cause ∧ session.model.apply edit = .error cause) ∧
        after = session.withReports (session.model.reports edit) := by
  apply ends_bind
  apply ends_get
  apply ends_bind
  apply ends_modify
  cases asked : session.model.apply edit with
  | ok outcome =>
    apply ends_bind
    apply ends_modify
    exact ends_pure trivial
  | error cause => exact ends_throw ⟨⟨cause, rfl, rfl⟩, rfl⟩

theorem step_edit_refused (cached : session.isCached = true) {error : Error}
    (refused : (step solver session (.edit edit)).outcome = .error error) :
    (∃ cause, error = .model cause ∧ session.model.apply edit = .error cause) ∧
      (step solver session (.edit edit)).after =
        session.withReports (session.model.reports edit) := by
  refine Step.of_ends (fun outcome after => ∀ error, outcome = .error error →
    (∃ cause, error = .model cause ∧ session.model.apply edit = .error cause) ∧
      after = session.withReports (session.model.reports edit)) ?_ error refused
  apply ends_bind
  unfold Ends
  rw [edit_of_cached cached]
  refine ends_editModel_refused.mono ?_ ?_
  · intro created after _
    cases created <;> exact nofun
  · rintro _ after left _ ⟨⟩
    exact left

end Step

variable {World Factory Instance : Type}

/-- A change in place that is refused leaves every part of the model as it was.  In a session
with a model it also leaves the state, the instance, the correspondence and the record as they
were, and makes no call. -/
theorem unchanged_of_refused (solver : Solver World Factory Instance) :
    (∀ (model : Model Float) edit cause after,
      Model.enact edit model = .error cause after →
        model.apply edit = .error cause ∧ after = model) ∧
    ∀ (session : Recorded World Factory Instance) edit error, session.isCached = true →
      (step solver.recorded session (.edit edit)).outcome = .error error →
        let after := (step solver.recorded session (.edit edit)).after
        (∃ cause, error = .model cause ∧
          Model.enact edit session.model = .error cause session.model) ∧
        after.model = session.model ∧ after.state = session.state ∧
        after.link.live = session.link.live ∧ after.link.map = session.link.map ∧
        after.link.factory = session.link.factory ∧ after.record = session.record ∧
        after.link.world = session.link.world ∧ after.entries = session.entries := by
  constructor
  · intro model edit cause after refused
    exact (Model.matches_enact model edit).of_error refused
  · intro session edit error cached refused after
    obtain ⟨⟨cause, rfl, failed⟩, left⟩ := step_edit_refused cached refused
    have same : after = session.withReports (session.model.reports edit) := left
    rw [same]
    refine ⟨⟨cause, rfl, ?_⟩, rfl, rfl, rfl, rfl, rfl, rfl, rfl, rfl⟩
    have agrees := Model.matches_enact session.model edit
    cases enacted : Model.enact edit session.model with
    | ok created changed =>
      rw [agrees.of_ok enacted] at failed
      cases failed
    | error other changed =>
      obtain ⟨alike, rfl⟩ := agrees.of_error enacted
      rw [alike] at failed
      cases failed
      rfl

def solvedSession : Recorded Scripted.World String Scripted.Instance :=
  finish Scripted.solver.recorded
    (stateAfter (start Scripted.solver.recorded)
      (unplayed { factory := some "demo" } { scripts := [("demo", reportingScript)] }))
    [.edit (.addVariable ⟨some 0, none, none⟩ .continuous), .edit (.setName (.var ⟨0⟩) "x"),
      .edit (.addConstraint ⟨.scalar ⟨0, [(⟨0⟩, 1)], []⟩, .lessThan 4⟩), .optimize]

/-- Refused: a function with an unknown variable, an upper bound below the lower one, and a
name that is no name. -/
def refusedEdits : List (Model.Edit Float) :=
  [.addConstraint ⟨.scalar ⟨0, [(⟨0⟩, 1), (⟨7⟩, 1)], []⟩, .lessThan 4⟩, .setUpperBound ⟨0⟩ (-1),
    .setName (.con ⟨0⟩) "in"]

theorem unchanged_solvedSession :
    (solvedSession.isCached = true ∧ solvedSession.record.isSome = true) ∧
      ∀ edit ∈ refusedEdits, ∃ error cause,
        (step Scripted.solver.recorded solvedSession (.edit edit)).outcome = .error error ∧
        solvedSession.model.apply edit = .error cause ∧
        (step Scripted.solver.recorded solvedSession (.edit edit)).after.model =
          solvedSession.model ∧
        (step Scripted.solver.recorded solvedSession (.edit edit)).after.entries =
          solvedSession.entries := by
  have cached : solvedSession.isCached = true := by decide +kernel
  have recorded : solvedSession.record.isSome = true := by decide +kernel
  have refused : ∀ edit ∈ refusedEdits,
      (step Scripted.solver.recorded solvedSession (.edit edit)).outcome.isOk = false := by
    decide +kernel
  refine ⟨⟨cached, recorded⟩, ?_⟩
  intro edit member
  cases outcome : (step Scripted.solver.recorded solvedSession (.edit edit)).outcome with
  | ok answer =>
    have failed := refused edit member
    rw [outcome] at failed
    cases failed
  | error error =>
    obtain ⟨inPlace, inSession⟩ := unchanged_of_refused Scripted.solver
    obtain ⟨⟨cause, _, enacted⟩, same, _, _, _, _, _, _, entries⟩ :=
      inSession solvedSession edit error cached outcome
    exact ⟨error, cause, rfl, (inPlace _ _ _ _ enacted).1, same, entries⟩

end ConicModel.Session
