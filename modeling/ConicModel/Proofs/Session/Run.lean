import ConicModel.Proofs.Session.Action
import ConicModel.Session.Operation
import Mathlib.Data.List.Induction

/-!
Contract: runs of a session, from its start through any sequence of operations.

Owns:
- how a session starts, and the sessions that have started;
- the history of a run, with what came of every operation, and how it is taken apart;
- induction over the operations of a run.

Does not own: what an operation does.

A refused operation is a step of a run like any other.
-/

namespace ConicModel.Session

variable {World Factory Instance α : Type}

inductive Opening where
  /-- Without a model to begin with. -/
  | fresh
  /-- With the model that a text describes. -/
  | fromText (text : String)

def Opening.action (solver : Solver World Factory Instance) :
    Opening → Action World Factory Instance Unit
  | fresh => start solver
  | fromText text => startFromText solver text

/-- A session starts with some model and some reports, or it is refused before anything but
reports was done. -/
theorem ends_opening {solver : Solver World Factory Instance} (opening : Opening)
    {idle : Session World Factory Instance} {returned : Session World Factory Instance → Prop}
    {refused : Session World Factory Instance → Prop}
    (atOnce : ∀ events, refused { idle with link := { idle.link with events := events } })
    (starts : ∀ model events,
      Ends (start solver) { idle with model := model, link := { idle.link with events := events } }
        (fun _ after => returned after) fun _ after => refused after) :
    Ends (opening.action solver) idle (fun _ after => returned after)
      fun _ after => refused after := by
  cases opening with
  | fresh => exact starts idle.model idle.link.events
  | fromText text =>
    apply ends_bind
    apply ends_get
    dsimp only
    split
    · exact ends_throw (atOnce idle.link.events)
    · split
      · apply ends_bind
        apply ends_modify
        exact ends_throw (atOnce _)
      · apply ends_bind
        apply ends_modify
        apply ends_bind
        apply ends_modify
        exact starts _ _

inductive Opened (solver : Solver World Factory Instance) :
    Session World Factory Instance → Prop where
  | start (configuration : Configuration Factory) (world : World) (opening : Opening)
      {session : Session World Factory Instance}
      (done : opening.action solver (idle configuration world) = .ok () session) :
      Opened solver session

/-- An operation within a run: the session before it, what came of it, and the session
after it. -/
structure Step (World Factory Instance : Type) where
  before : Session World Factory Instance
  operation : Operation Factory
  outcome : Except Error Answer
  after : Session World Factory Instance

def outcomeOf (action : Action World Factory Instance α)
    (session : Session World Factory Instance) : Except Error α :=
  match action session with
  | .ok value _ => .ok value
  | .error cause _ => .error cause

variable (solver : Solver World Factory Instance)

def step (session : Session World Factory Instance) (operation : Operation Factory) :
    Step World Factory Instance :=
  ⟨session, operation, outcomeOf (perform solver operation) session,
    stateAfter (perform solver operation) session⟩

def finish (session : Session World Factory Instance) (operations : List (Operation Factory)) :
    Session World Factory Instance :=
  operations.foldl (fun session operation => (step solver session operation).after) session

/-- The steps of a run, oldest first. -/
def history : Session World Factory Instance → List (Operation Factory) →
    List (Step World Factory Instance)
  | _, [] => []
  | session, operation :: others =>
    step solver session operation :: history (step solver session operation).after others

variable {solver} {session : Session World Factory Instance}

theorem finish_append (earlier later : List (Operation Factory)) :
    finish solver session (earlier ++ later) =
      finish solver (finish solver session earlier) later :=
  List.foldl_append

theorem finish_concat (operations : List (Operation Factory)) (operation : Operation Factory) :
    finish solver session (operations ++ [operation]) =
      (step solver (finish solver session operations) operation).after := by
  unfold finish
  rw [List.foldl_append]
  rfl

theorem history_concat (operations : List (Operation Factory)) (operation : Operation Factory) :
    history solver session (operations ++ [operation]) =
      history solver session operations ++
        [step solver (finish solver session operations) operation] := by
  induction operations generalizing session with
  | nil => rfl
  | cons first others ih =>
    rw [List.cons_append, history, ih]
    rfl

/-- A step of a run was an operation, and the steps before it and after it are runs too. -/
theorem history_split {operations : List (Operation Factory)}
    {earlier later : List (Step World Factory Instance)} {middle : Step World Factory Instance}
    (split : history solver session operations = earlier ++ middle :: later) :
    ∃ first operation others, operations = first ++ operation :: others ∧
      middle = step solver (finish solver session first) operation ∧
      later = history solver middle.after others := by
  induction earlier generalizing session operations with
  | nil =>
    cases operations with
    | nil => cases split
    | cons operation others =>
      obtain ⟨rfl, rfl⟩ := List.cons.inj split
      exact ⟨[], operation, others, rfl, rfl, rfl⟩
  | cons _ earlier inductionHypothesis =>
    cases operations with
    | nil => cases split
    | cons operation others =>
      obtain ⟨-, rest⟩ := List.cons.inj split
      obtain ⟨first, next, last, rfl, here, after⟩ := inductionHypothesis rest
      exact ⟨operation :: first, next, last, rfl, here, after⟩

/-- What holds at the start and is kept by every step holds of every run. -/
theorem holds_of_run
    {holds : Session World Factory Instance → List (Step World Factory Instance) → Prop}
    (start : holds session [])
    (continues : ∀ now past operation, holds now past →
      holds (step solver now operation).after (past ++ [step solver now operation]))
    (operations : List (Operation Factory)) :
    holds (finish solver session operations) (history solver session operations) := by
  induction operations using List.reverseRecOn with
  | nil => exact start
  | append_singleton operations operation ih =>
    rw [finish_concat, history_concat]
    exact continues _ _ operation ih

/-- An operation that ends in a certain way makes a step of that kind. -/
theorem Step.of_ends {operation : Operation Factory}
    (holds : Except Error Answer → Session World Factory Instance → Prop)
    (ends : Ends (perform solver operation) session (fun answer after => holds (.ok answer) after)
      fun cause after => holds (.error cause) after) :
    holds (step solver session operation).outcome (step solver session operation).after := by
  unfold Ends at ends
  unfold step outcomeOf stateAfter
  cases ended : perform solver operation session with
  | ok answer after =>
    rw [ended] at ends
    exact ends
  | error cause after =>
    rw [ended] at ends
    exact ends

theorem exists_of_isOk {outcome : Except Error α} (done : outcome.isOk = true) :
    ∃ value, outcome = .ok value := by
  cases outcome with
  | error cause => cases done
  | ok value => exact ⟨value, rfl⟩

theorem ok_of_outcomeOf {action : Action World Factory Instance α} {value : α}
    (done : outcomeOf action session = .ok value) : ∃ after, action session = .ok value after := by
  unfold outcomeOf at done
  split at done
  · rename_i after ended
    cases done
    exact ⟨after, ended⟩
  · cases done

theorem opened_of_isOk (configuration : Configuration Factory) (world : World) (opening : Opening)
    (done : (outcomeOf (opening.action solver) (idle configuration world)).isOk = true) :
    Opened solver (stateAfter (opening.action solver) (idle configuration world)) := by
  obtain ⟨_, outcome⟩ := exists_of_isOk done
  obtain ⟨after, started⟩ := ok_of_outcomeOf outcome
  refine .start configuration world opening (started.trans ?_)
  unfold stateAfter
  rw [started]

end ConicModel.Session
