import ConicModel.Proofs.Session.Independence

/-!
Contract: ids in runs of a model and in runs of a session with a model.

Owns:
- what the additions of a session gave;
- the fact that ids are numbered without gaps in the order of the additions, that no id is
  given twice, and that an id that was removed is never valid again.

Does not own: what a solver calls the entities.
-/

namespace ConicModel.Session

variable {World Factory Instance : Type} {solver : Solver World Factory Instance}
  {session : Session World Factory Instance}

/-- The additions of a session gave what those of its model gave. -/
theorem additions_told (kind : EntityKind)
    (results : List (Model.Edit Float × Except (ModelError Float) (Option EntityRef))) :
    Model.additions kind (results.map fun result => (result.1, told result.2)) =
      (Model.additions kind results).map Answer.ofCreated := by
  unfold Model.additions
  rw [List.filterMap_map, List.map_filterMap]
  refine List.filterMap_congr fun result _ => ?_
  obtain ⟨edit, created | cause⟩ := result <;>
    (show (if edit.adds = some kind then _ else none) = Option.map _ (if _ then _ else none)
     split <;> rfl)

/-- Everything of a kind that was given in a session with a model, in the order in which it
was given. -/
theorem issued_session_eq (cached : session.isCached = true) (initial : session.model.Initial)
    (operations : List (Operation Factory)) (kind : EntityKind) :
    (session.model.entities kind).map Answer.entity ++
        Model.additions kind (changes (history solver session operations)) =
      (List.range ((finish solver session operations).model.added kind)).map
        (Answer.entity ∘ kind.ref) := by
  obtain ⟨answers, final⟩ := changes_history solver cached operations
  have issued := congrArg (List.map Answer.ofCreated)
    (Model.issued_eq initial (changesOf operations) kind)
  rw [List.map_append, List.map_map, List.map_map] at issued
  rw [answers, final, additions_told]
  exact issued

theorem answer_entity_injective : Function.Injective Answer.entity :=
  fun _ _ => Answer.entity.inj

section Run

variable (cached : session.isCached = true)
include cached

theorem numbered_of_session (initial : session.model.Initial)
    (operations : List (Operation Factory)) (kind : EntityKind) :
    Model.Numbered Answer.entity kind
      ((session.model.entities kind).map Answer.entity ++
        Model.additions kind (changes (history solver session operations)))
      (finish solver session operations).model :=
  Model.numbered_of_issued answer_entity_injective
    (reachable_of_run cached initial.reachable operations).wellFormed
    (issued_session_eq cached initial operations kind)

/-- A session that removed an entity does not hold it any more. -/
theorem gone_of_step (reached : session.model.Reachable) {entity : EntityRef}
    (removed : (step solver session (.edit (.remove entity))).outcome.isOk = true) :
    Model.Gone entity (step solver session (.edit (.remove entity))).after.model := by
  obtain ⟨answered, made⟩ := step_edit solver cached (.remove entity)
  rw [answered] at removed
  rw [made]
  cases applied : session.model.apply (.remove entity) with
  | error cause =>
    rw [applied] at removed
    cases removed
  | ok outcome =>
    rw [Model.attempt_of_ok applied]
    exact Model.gone_of_remove reached.wellFormed applied

theorem not_contains_of_session (reached : session.model.Reachable)
    (earlier later : List (Operation Factory)) {entity : EntityRef}
    (removed : (step solver (finish solver session earlier) (.edit (.remove entity))).outcome.isOk =
      true) :
    (finish solver session (earlier ++ .edit (.remove entity) :: later)).model.contains entity =
      false := by
  have gone := gone_of_step ((isCached_finish session earlier).trans cached)
    (reachable_of_run cached reached earlier) removed
  rw [← finish_concat] at gone
  have stays : (finish solver session (earlier ++ [.edit (.remove entity)])).isCached = true :=
    (isCached_finish session _).trans cached
  rw [List.append_cons, finish_append, (changes_history solver stays later).2]
  exact (gone.foldl_attempt _).not_contains

end Run

/-- In every run of changes of a model, and in every run of a session with a model whatever its
solver does: the entities of a kind are numbered from zero in the order in which they were
added, those of the text that was read first; none is given twice; the live ones are listed
in that order; and what was removed is never valid again. -/
theorem ids_of_run {start : Model Float} (initial : start.Initial) (edits : List (Model.Edit Float))
    (opened : Opened solver session) (cached : session.isCached = true)
    (operations : List (Operation Factory)) :
    ((∀ kind, Model.Numbered some kind
        ((start.entities kind).map some ++ Model.additions kind (start.trail edits))
        (edits.foldl Model.attempt start)) ∧
      ∀ earlier entity later outcome, edits = earlier ++ .remove entity :: later →
        (earlier.foldl Model.attempt start).apply (.remove entity) = .ok outcome →
          (edits.foldl Model.attempt start).contains entity = false) ∧
    (∀ kind, Model.Numbered Answer.entity kind
        ((session.model.entities kind).map Answer.entity ++
          Model.additions kind (changes (history solver session operations)))
        (finish solver session operations).model) ∧
      ∀ earlier entity later, operations = earlier ++ .edit (.remove entity) :: later →
        (step solver (finish solver session earlier) (.edit (.remove entity))).outcome.isOk = true →
          (finish solver session operations).model.contains entity = false := by
  obtain ⟨configuration, world, opening, done⟩ := opened
  have sessionInitial : session.model.Initial :=
    (initial_opening opening configuration world).of_ok done
  refine ⟨⟨Model.numbered_of_run initial edits, ?_⟩,
    numbered_of_session cached sessionInitial operations, ?_⟩
  · rintro earlier entity later outcome rfl removed
    exact Model.not_contains_of_run initial.reachable earlier later removed
  · rintro earlier entity later rfl removed
    exact not_contains_of_session cached sessionInitial.reachable earlier later removed

/-! ## A run with gaps -/

/-- Of the five additions, one is refused; the third variable is removed and asked for
again. -/
def gappyEdits : List (Model.Edit Float) :=
  [.addVariable .free .continuous, .addVariable ⟨some 3, some 2, none⟩ .integer,
    .addVariable .free .binary, .addConstraint ⟨.scalar ⟨0, [(⟨1⟩, 1)], []⟩, .lessThan 4⟩,
    .remove (.var ⟨1⟩), .setName (.var ⟨1⟩) "x", .addVariable .free .continuous]

def declaringSession : Session Scripted.World String Scripted.Instance :=
  stateAfter ((Opening.fromText "variables: x, y").action Scripted.solver)
    (idle { factory := some "demo" } {})

/-- The solver is replaced and taken away between the changes. -/
def gappyOperations : List (Operation String) :=
  [.edit (.addVariable .free .continuous), .optimize, .edit (.remove (.var ⟨2⟩)), .detach,
    .edit (.addVariable ⟨some 3, some 2, none⟩ .integer), .setFactory "other", .sync,
    .edit (.addVariable .free .binary)]

theorem ids_of_gappyEdits :
    (Model.Initial .empty ∧ Opened Scripted.solver declaringSession ∧
        declaringSession.isCached = true) ∧
      (Model.Numbered some .var (Model.additions .var (Model.trail .empty gappyEdits))
          (gappyEdits.foldl Model.attempt .empty) ∧
        (gappyEdits.foldl Model.attempt .empty).contains (.var ⟨1⟩) = false) ∧
      Model.Numbered Answer.entity .var
          ([.entity (.var ⟨0⟩), .entity (.var ⟨1⟩)] ++ Model.additions .var
            (changes (history Scripted.solver declaringSession gappyOperations)))
          (finish Scripted.solver declaringSession gappyOperations).model ∧
        (finish Scripted.solver declaringSession gappyOperations).model.contains (.var ⟨2⟩) =
          false := by
  have opened : Opened Scripted.solver declaringSession := by
    unfold declaringSession
    apply opened_of_isOk
    decide +kernel
  have cached : declaringSession.isCached = true := by decide +kernel
  have declared : declaringSession.model.entities .var = [.var ⟨0⟩, .var ⟨1⟩] := by decide +kernel
  have nothing : (.empty : Model Float).entities .var = [] := rfl
  have removes : ((gappyEdits.take 4).foldl Model.attempt .empty).contains (.var ⟨1⟩) = true := by
    decide +kernel
  have removed : (step Scripted.solver
      (finish Scripted.solver declaringSession (gappyOperations.take 2))
      (.edit (.remove (.var ⟨2⟩)))).outcome.isOk = true := by decide +kernel
  obtain ⟨⟨numbered, gone⟩, sessionNumbered, sessionGone⟩ :=
    ids_of_run .empty gappyEdits opened cached gappyOperations
  have created := numbered .var
  have answers := sessionNumbered .var
  rw [nothing, List.map_nil, List.nil_append] at created
  rw [declared, List.map_cons, List.map_cons, List.map_nil] at answers
  refine ⟨⟨.empty, opened, cached⟩, ⟨created, ?_⟩, answers, ?_⟩
  · exact gone (gappyEdits.take 4) (.var ⟨1⟩) (gappyEdits.drop 5) _ rfl
      (Model.Change.removeVariable ⟨1⟩ removes).apply_eq
  · exact sessionGone (gappyOperations.take 2) (.var ⟨2⟩) (gappyOperations.drop 3) rfl removed

end ConicModel.Session
