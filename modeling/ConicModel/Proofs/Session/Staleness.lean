import ConicModel.Proofs.Session.Record
import ConicModel.Solver.Scripted

/-!
Contract: in a session with a model, results are those of the model as it is.

Owns:
- the reads that need a current record, and what they do without one;
- what the presence of a record tells about the run so far;
- the two sides of staleness: a result that is read belongs to the current model, and
  after a change of the model there is no result to read.

Does not own: the values of results.
-/

namespace ConicModel.Session

variable {World Factory Instance α : Type}

def ResultRead.needsRecord : ResultRead → Bool
  | .rawStatus | .objectiveValue | .dualObjectiveValue | .objectiveBound | .solveTime => true
  | .value _ | .valueOfEntity _ | .valueOfExpr _ | .dual _ => true
  | _ => false

/-! ## Reads without a record -/

section Unreadable

variable {solver : Solver World Factory Instance} {session : Session World Factory Instance}
  (cached : session.isCached = true)
include cached

theorem fromSource_of_cached {ask : Instance → Link.Action World Factory Instance α}
    {otherwise : Action World Factory Instance α} :
    fromSource ask otherwise session = otherwise session := by
  have source : session.resultSource? = none := by
    unfold resultSource?
    rw [if_pos cached]
  unfold fromSource
  rw [get_bind, source]

variable {cause : Error} (unreadable : session.readableRecord = .error cause)
include unreadable

omit cached in
theorem requireRecord_of_unreadable :
    (requireRecord : Action World Factory Instance ResultRecord) session =
      .error cause session := by
  unfold requireRecord
  rw [unreadable]

theorem requirePrimal_of_unreadable : requirePrimal solver session = .error cause session := by
  show (if session.isCached = true then _ else _ : Action World Factory Instance Unit) session = _
  rw [if_pos cached]
  exact bind_of_error (bind_of_error (requireRecord_of_unreadable unreadable))

theorem solveFloat_of_unreadable (wanted : Attribute) (fact : ResultSummary → Option Float) :
    solveFloat solver wanted fact session = .error cause session := by
  apply bind_of_error
  rw [fromSource_of_cached cached]
  exact bind_of_error (requireRecord_of_unreadable unreadable)

theorem resultDual_of_unreadable (entity : EntityRef) :
    resultDual solver entity session = .error cause session := by
  cases entity with
  | var id =>
    show (if session.isCached = true then _ else _ :
      Action World Factory Instance (ResultValue Float)) session = _
    rw [if_pos cached]
    exact bind_of_error (bind_of_error (requireRecord_of_unreadable unreadable))
  | con id =>
    show (if session.isCached = true then _ else _ :
      Action World Factory Instance (ResultValue Float)) session = _
    rw [if_pos cached]
    exact bind_of_error (bind_of_error (requireRecord_of_unreadable unreadable))

/-- A read that needs the record is refused for the reason why there is none to read. -/
theorem readResult_of_unreadable {result : ResultRead} (needs : result.needsRecord = true) :
    readResult solver result session = .error cause session := by
  have primal : requirePrimal solver session = .error cause session :=
    requirePrimal_of_unreadable cached unreadable
  have float : ∀ wanted fact, solveFloat solver wanted fact session = .error cause session :=
    solveFloat_of_unreadable cached unreadable
  cases result with
  | rawStatus =>
    apply bind_of_error
    refine (fromSource_of_cached cached).trans ?_
    exact bind_of_error (requireRecord_of_unreadable unreadable)
  | objectiveValue => exact bind_of_error (bind_of_error primal)
  | dualObjectiveValue => exact bind_of_error (float _ _)
  | objectiveBound => exact bind_of_error (float _ _)
  | solveTime => exact bind_of_error (float _ _)
  | value id => exact bind_of_error (bind_of_error primal)
  | valueOfEntity entity =>
    apply bind_of_error
    cases entity with
    | var id => exact bind_of_error (bind_of_error primal)
    | con id => exact bind_of_error primal
  | valueOfExpr expr => exact bind_of_error (bind_of_error primal)
  | dual entity => exact bind_of_error (resultDual_of_unreadable cached unreadable entity)
  | _ => cases needs

end Unreadable

/-- A session that answers nothing about an earlier solve: reads that need its record are
refused as stale, and the facts are those of a model that was not solved. -/
structure Outdated (solver : Solver World Factory Instance)
    (session : Session World Factory Instance) : Prop where
  refused : ∀ result : ResultRead, result.needsRecord = true →
    ∃ cause, cause.kind = .staleMapping ∧
      readResult solver result session = .error cause session
  termination : readResult solver .terminationStatus session =
    .ok (.termination .optimizeNotCalled) session
  primal : readResult solver .primalStatus session = .ok (.status .noSolution) session
  dual : readResult solver .dualStatus session = .ok (.status .noSolution) session
  noValues : readResult solver .hasValues session = .ok (.flag false) session
  noDuals : readResult solver .hasDuals session = .ok (.flag false) session
  noDual : ∀ entity, readResult solver (.hasDual entity) session = .ok (.flag false) session

section Outdated

variable {solver : Solver World Factory Instance} {session : Session World Factory Instance}

theorem recallFact_of_none (unrecorded : session.currentRecord? = none)
    (fact : ResultSummary → α) :
    (recallFact fact : Action World Factory Instance α) session =
      .ok (fact .notCalled) session := by
  unfold recallFact
  rw [get_bind, unrecorded]
  rfl

theorem saysValues_of_ok {status : Action World Factory Instance ResultStatus}
    {found : ResultStatus} (done : status session = .ok found session) :
    saysValues status session = .ok found.hasValues session := by
  show EStateM.tryCatch (status >>= fun found => pure found.hasValues) _ session = _
  unfold EStateM.tryCatch
  rw [bind_of_ok done]
  rfl

theorem outdated_of_record (cached : session.isCached = true) {record : ResultRecord}
    (present : session.record = some record)
    (other : record.generation ≠ session.model.generation) : Outdated solver session := by
  have differs : record.isCurrent session.model = false := beq_eq_false_iff_ne.mpr other
  have unreadable : session.readableRecord = .error (.stale .results) := by
    unfold readableRecord
    rw [present]
    exact if_neg (by rw [differs]; decide)
  have unrecorded : session.currentRecord? = none := by
    unfold currentRecord?
    rw [present, Option.filter_some, if_neg (by rw [differs]; decide)]
  have primal : primalStatus solver session = .ok .noSolution session :=
    (fromSource_of_cached cached).trans (recallFact_of_none unrecorded _)
  have dual : dualStatus solver session = .ok .noSolution session :=
    (fromSource_of_cached cached).trans (recallFact_of_none unrecorded _)
  have noDuals := saysValues_of_ok dual
  refine
    { refused := fun result needs =>
        ⟨_, rfl, readResult_of_unreadable cached unreadable needs⟩
      termination := ?_
      primal := bind_of_ok primal
      dual := bind_of_ok dual
      noValues := bind_of_ok (saysValues_of_ok primal)
      noDuals := bind_of_ok noDuals
      noDual := ?_ }
  · refine bind_of_ok ?_
    exact (fromSource_of_cached cached).trans (recallFact_of_none unrecorded _)
  · intro entity
    apply bind_of_ok
    cases entity with
    | var id => rfl
    | con id => exact bind_of_ok noDuals

end Outdated

/-! ## Runs -/

def Step.Succeeded (step : Step World Factory Instance) : Prop :=
  step.operation.isSolve = true ∧ ∃ answer, step.outcome = .ok answer

/-- Whether the step neither replaced the solver nor solved, other than being refused
because solving is out of place. -/
def Step.LeavesResults (step : Step World Factory Instance) : Prop :=
  step.operation.isLifecycle = false ∧
    (step.operation.isSolve = true → Misplaced step.outcome)

/-- What a record vouches for: the last solve of the run succeeded, the record is of the
model that was solved, and the model has only evolved since. -/
structure Vouched (now : Session World Factory Instance)
    (past : List (Step World Factory Instance)) : Prop where
  cached : now.isCached = true
  record : ∀ found, now.record = some found →
    ∃ (earlier : List (Step World Factory Instance)) (solve : Step World Factory Instance)
      (later : List (Step World Factory Instance)),
      past = earlier ++ solve :: later ∧ solve.Succeeded ∧ (∀ step ∈ later, step.LeavesResults) ∧
        found.generation = solve.before.model.generation ∧
        Model.Evolves solve.before.model now.model

/-- What the last solve leaves for the rest of the run: its record is present, and the
generations only grow. -/
structure Remembered (now : Session World Factory Instance)
    (past : List (Step World Factory Instance)) : Prop where
  cached : now.isCached = true
  record : ∀ (earlier : List (Step World Factory Instance)) (solve : Step World Factory Instance)
    (later : List (Step World Factory Instance)), past = earlier ++ solve :: later →
    solve.Succeeded →
    (∀ step ∈ later, step.operation.isLifecycle = false ∧ step.operation.isSolve = false) →
    ∃ found, now.record = some found ∧
      found.generation = solve.before.model.generation ∧
      solve.before.model.generation ≤ now.model.generation ∧
      ∀ step ∈ later, solve.before.model.generation ≤ step.before.model.generation ∧
        step.after.model.generation ≤ now.model.generation

section Runs

variable {solver : Solver World Factory Instance} {session : Session World Factory Instance}
  {past : List (Step World Factory Instance)} {next : Step World Factory Instance}
  (regular : Regular next.operation next.outcome next.before next.after)
include regular

theorem Regular.isCached (cached : next.before.isCached = true) : next.after.isCached = true :=
  (congrArg Mode.isCached regular.link.mode).trans cached

theorem Vouched.extend (vouched : Vouched next.before past) :
    Vouched next.after (past ++ [next]) where
  cached := regular.isCached vouched.cached
  record := by
    intro found present
    cases regular.effect with
    | leaves stays unsolved record =>
      obtain ⟨earlier, solve, later, rfl, succeeded, leave, generation, evolves⟩ :=
        vouched.record found (record.symm.trans present)
      refine ⟨earlier, solve, later ++ [next], List.append_assoc _ _ _, succeeded, ?_, generation,
        evolves.trans regular.model⟩
      intro step member
      rcases List.mem_append.mp member with old | new
      · exact leave step old
      · rw [List.mem_singleton.mp new]
        exact ⟨stays, unsolved⟩
    | forgets cause record =>
      rw [record] at present
      cases present
    | writes solve done record =>
      obtain ⟨written, writtenPresent, generation⟩ := record
      rw [writtenPresent] at present
      cases present
      exact ⟨past, next, [], rfl, ⟨solve, done⟩, (fun _ member => nomatch member),
        generation, regular.model⟩

theorem Regular.record_of_succeeded (succeeded : next.Succeeded) :
    ∃ found, next.after.record = some found ∧
      found.generation = next.before.model.generation := by
  obtain ⟨solves, answer, done⟩ := succeeded
  cases regular.effect with
  | leaves stays unsolved record =>
    obtain ⟨fault, refused⟩ := unsolved solves
    rw [refused] at done
    cases done
  | forgets cause record =>
    rcases cause with replaced | ⟨_, cause, failed⟩
    · rw [Operation.not_lifecycle_of_solve solves] at replaced
      cases replaced
    · rw [failed] at done
      cases done
  | writes solve done record => exact record

theorem Regular.record_of_quiet (stays : next.operation.isLifecycle = false)
    (unsolved : next.operation.isSolve = false) : next.after.record = next.before.record := by
  cases regular.effect with
  | leaves _ _ record => exact record
  | forgets cause record =>
    rcases cause with replaced | ⟨solves, _⟩
    · rw [stays] at replaced
      cases replaced
    · rw [unsolved] at solves
      cases solves
  | writes solves done record =>
    rw [unsolved] at solves
    cases solves

theorem Remembered.extend (remembered : Remembered next.before past) :
    Remembered next.after (past ++ [next]) where
  cached := regular.isCached remembered.cached
  record := by
    intro earlier solve later split succeeded quiet
    have grows := regular.model.grows
    rcases List.eq_nil_or_concat later with rfl | ⟨others, last, joined⟩
    · obtain ⟨rfl, same⟩ := List.append_inj' split rfl
      obtain rfl : next = solve := List.singleton_inj.mp same
      obtain ⟨written, present, generation⟩ := regular.record_of_succeeded succeeded
      exact ⟨written, present, generation, grows, fun _ member => nomatch member⟩
    · rw [List.concat_eq_append] at joined
      subst joined
      have parts : past ++ [next] = (earlier ++ solve :: others) ++ [last] := by
        rw [split, List.append_assoc]
        rfl
      obtain ⟨pastParts, same⟩ := List.append_inj' parts rfl
      obtain rfl : next = last := List.singleton_inj.mp same
      have quietOthers := fun step member => quiet step (List.mem_append_left [next] member)
      obtain ⟨found, present, generation, above, between⟩ :=
        remembered.record earlier solve others pastParts succeeded quietOthers
      obtain ⟨stays, unsolved⟩ := quiet next (List.mem_append_right _ List.mem_cons_self)
      have record := regular.record_of_quiet stays unsolved
      refine ⟨found, record.trans present, generation, Nat.le_trans above grows, ?_⟩
      intro step member
      rcases List.mem_append.mp member with old | new
      · exact ⟨(between step old).1, Nat.le_trans (between step old).2 grows⟩
      · rw [List.mem_singleton.mp new]
        exact ⟨above, Nat.le_refl _⟩

omit regular

/-- In a session with a model, a result that is read belongs to the last solve and to the
model as it still is, and a change of the model leaves no result to read until the next
solve. -/
theorem results_of_last_solve (opened : Opened solver session) (cached : session.isCached = true)
    (operations : List (Operation Factory)) :
    (∀ (result : ResultRead) (answer : Answer) (after : Session World Factory Instance),
      result.needsRecord = true →
      readResult solver result (finish solver session operations) = .ok answer after →
      ∃ (earlier : List (Step World Factory Instance)) (solve : Step World Factory Instance)
        (later : List (Step World Factory Instance)),
        history solver session operations = earlier ++ solve :: later ∧ solve.Succeeded ∧
          (∀ step ∈ later, step.LeavesResults) ∧
          Model.SameContent solve.before.model (finish solver session operations).model) ∧
    ∀ (earlier : List (Step World Factory Instance)) (solve : Step World Factory Instance)
      (later : List (Step World Factory Instance)),
      history solver session operations = earlier ++ solve :: later → solve.Succeeded →
      (∀ step ∈ later, step.operation.isLifecycle = false ∧ step.operation.isSolve = false) →
      (∃ step ∈ later, step.before.model.generation < step.after.model.generation) →
      Outdated solver (finish solver session operations) := by
  have vouched : Vouched (finish solver session operations) (history solver session operations) :=
    holds_of_run ⟨cached, fun found present => absurd present (by rw [opened.unrecorded]; nofun)⟩
      (fun _ _ operation vouched =>
        vouched.extend (regular_step solver vouched.cached operation)) operations
  have remembered : Remembered (finish solver session operations)
      (history solver session operations) :=
    holds_of_run ⟨cached, fun earlier solve later split => absurd split (by simp)⟩
      (fun _ _ operation remembered =>
        remembered.extend (regular_step solver remembered.cached operation)) operations
  constructor
  · intro result answer after needs read
    cases readable : (finish solver session operations).readableRecord with
    | error cause =>
      rw [readResult_of_unreadable vouched.cached readable needs] at read
      cases read
    | ok record =>
      unfold readableRecord at readable
      split at readable
      · cases readable
      · rename_i found present
        split at readable
        · rename_i current
          obtain ⟨earlier, solve, later, split, succeeded, leave, generation, evolves⟩ :=
            vouched.record found present
          have same := beq_iff_eq.mp current
          exact ⟨earlier, solve, later, split, succeeded, leave,
            evolves.same (generation.symm.trans same)⟩
        · cases readable
  · intro earlier solve later split succeeded quiet changed
    obtain ⟨found, present, generation, _, between⟩ :=
      remembered.record earlier solve later split succeeded quiet
    obtain ⟨step, member, grows⟩ := changed
    obtain ⟨below, above⟩ := between step member
    apply outdated_of_record remembered.cached present
    omega

end Runs

/-! ## A run with a scripted solver -/

def reportingScript : Scripted.Script where
  gets := [("TerminationStatus", some (.ok (.termination .optimal))),
    ("PrimalStatus", some (.ok (.result .feasiblePoint))),
    ("VariablePrimal(backend_variable[0])", some (.ok (.float 1.5)))]

def reportingSession : Session Scripted.World String Scripted.Instance :=
  stateAfter (start Scripted.solver)
    (idle { factory := some "demo" } { scripts := [("demo", reportingScript)] })

def solvingOperations : List (Operation String) :=
  [.edit (.addVariable .free .continuous), .optimize]

/-- The solved model is copied once more, which keeps the result, and changed, which does
not. -/
def changingOperations : List (Operation String) :=
  solvingOperations ++ [.sync, .edit (.setUpperBound ⟨0⟩ 4)]

theorem results_of_reportingSession :
    (Opened Scripted.solver reportingSession ∧ reportingSession.isCached = true) ∧
      (∃ (earlier : List (Step Scripted.World String Scripted.Instance))
        (solve : Step Scripted.World String Scripted.Instance)
        (later : List (Step Scripted.World String Scripted.Instance)),
        history Scripted.solver reportingSession solvingOperations = earlier ++ solve :: later ∧
          solve.Succeeded ∧ (∀ step ∈ later, step.LeavesResults) ∧
          Model.SameContent solve.before.model
            (finish Scripted.solver reportingSession solvingOperations).model) ∧
      Outdated Scripted.solver (finish Scripted.solver reportingSession changingOperations) := by
  have opened : Opened Scripted.solver reportingSession :=
    .start { factory := some "demo" } { scripts := [("demo", reportingScript)] } .fresh rfl
  refine ⟨⟨opened, rfl⟩, ?_, ?_⟩
  · have read : (outcomeOf (readResult Scripted.solver (.value ⟨0⟩))
        (finish Scripted.solver reportingSession solvingOperations)).isOk = true := by
      decide +kernel
    obtain ⟨answer, outcome⟩ := exists_of_isOk read
    obtain ⟨after, done⟩ := ok_of_outcomeOf outcome
    exact (results_of_last_solve opened rfl solvingOperations).1 _ answer after rfl done
  · let add : Operation String := .edit (.addVariable .free .continuous)
    let bound : Operation String := .edit (.setUpperBound ⟨0⟩ 4)
    have split : ∀ session : Session Scripted.World String Scripted.Instance,
        history Scripted.solver session changingOperations =
          [step Scripted.solver session add] ++
            step Scripted.solver (finish Scripted.solver session [add]) .optimize ::
            [step Scripted.solver (finish Scripted.solver session [add, .optimize]) .sync,
              step Scripted.solver (finish Scripted.solver session [add, .optimize, .sync])
                bound] :=
      fun _ => rfl
    have solved : (step Scripted.solver (finish Scripted.solver reportingSession [add])
        .optimize).outcome.isOk = true := by decide +kernel
    have grows : (step Scripted.solver (finish Scripted.solver reportingSession
        [add, .optimize, .sync]) bound).before.model.generation <
          (step Scripted.solver (finish Scripted.solver reportingSession
            [add, .optimize, .sync]) bound).after.model.generation := by decide +kernel
    refine (results_of_last_solve opened rfl changingOperations).2 _ _ _ (split reportingSession)
      ⟨rfl, exists_of_isOk solved⟩ ?_ ⟨_, List.mem_cons_of_mem _ List.mem_cons_self, grows⟩
    intro step member
    rcases List.mem_cons.mp member with rfl | member
    · exact ⟨rfl, rfl⟩
    · rw [List.mem_singleton.mp member]
      exact ⟨rfl, rfl⟩

end ConicModel.Session
