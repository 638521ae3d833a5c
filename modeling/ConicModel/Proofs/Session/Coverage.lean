import ConicModel.Proofs.Session.Correspondence
import ConicModel.Proofs.Session.Recall

/-!
Contract: a record holds what the model that was solved asks for, and nothing else.

Owns:
- `ResultRecord.Covers`, which ties the keys of a record to a model;
- the fact that every record that is collected covers the model;
- `Documented`, the invariant of sessions with a model that says so of their record;
- the fact that a current record covers the model as it is;
- `Unreadable`, the sessions with a model and without a current record.

Does not own: the values of a record.
-/

namespace ConicModel

variable {World Factory Instance : Type}

/-- Where there are primal values, each variable of the model has one, and otherwise there is no
objective value.  Dual values are of constraints of the model. -/
structure ResultRecord.Covers (record : ResultRecord) (model : Model Float) : Prop where
  objective : record.summary.primalStatus.hasValues = false →
    record.summary.objectiveValue = none
  primals : record.summary.primalStatus.hasValues = true →
    record.primals.map Prod.fst = model.vars.ids
  duals : ∀ reported ∈ record.duals, reported.1 ∈ model.constraints.ids

theorem ResultRecord.Covers.of_content {record : ResultRecord} {solved model : Model Float}
    (covers : record.Covers solved) (content : Model.SameContent solved model) :
    record.Covers model where
  objective := covers.objective
  primals := fun values => (covers.primals values).trans content.ids.1
  duals := fun reported member => content.ids.2 ▸ covers.duals reported member

/-! ## Collecting -/

namespace Link

section Collect

variable {solver : Solver World Factory Instance} {target : Instance}
  {link : Link World Factory Instance}

theorem ends_floatOf (status : ResultStatus) (wanted : Attribute) :
    Ends (floatOf solver target status wanted) link
      (fun found _ => status.hasValues = false → found = none) fun _ _ => True := by
  unfold floatOf
  cases status.hasValues with
  | false => exact ends_pure fun _ => rfl
  | true => exact ends_eq.mono (fun _ _ _ impossible => nomatch impossible) fun _ _ _ => trivial

/-- The facts of a solve hold an objective value only if there are primal values. -/
theorem objective_of_summary :
    Ends (summary solver target) link
      (fun facts _ => facts.primalStatus.hasValues = false → facts.objectiveValue = none)
      fun _ _ => True := by
  apply ends_then
  intro termination _
  apply ends_then
  intro primalStatus _
  apply ends_then
  intro dualStatus _
  apply ends_then
  intro resultCount _
  apply ends_bind
  refine (ends_floatOf primalStatus .objectiveValue).mono ?_ fun _ _ _ => trivial
  intro objectiveValue _ absent
  iterate 4 refine ends_then fun _ _ => ?_
  exact ends_pure absent

theorem keys_of_primals {map : IndexMap} :
    ∀ (ids : List VariableId) (link : Link World Factory Instance),
      Ends (primals solver target map ids) link (fun found _ => found.map Prod.fst = ids)
        fun _ _ => True
  | [], _ => ends_pure rfl
  | id :: others, link => by
    unfold primals
    split
    · exact ends_throw trivial
    · apply ends_then
      intro value middle
      apply ends_bind
      refine (keys_of_primals others middle).mono ?_ fun _ _ _ => trivial
      intro found _ keys
      exact ends_pure (congrArg (id :: ·) keys)

theorem keys_of_duals {map : IndexMap} :
    ∀ (entries : List (Entry .con (Constraint Float))) (link : Link World Factory Instance),
      Ends (duals solver target map entries) link
        (fun found _ => ∀ reported ∈ found, reported.1 ∈ entries.map Entry.id) fun _ _ => True
  | [], _ => ends_pure nofun
  | entry :: others, link => by
    have fromOthers : ∀ middle, Ends (duals solver target map others) middle
        (fun found _ => ∀ reported ∈ found, reported.1 ∈ (entry :: others).map Entry.id)
        fun _ _ => True := by
      intro middle
      refine (keys_of_duals others middle).mono ?_ fun _ _ _ => trivial
      exact fun _ _ keys reported member => List.mem_cons_of_mem _ (keys reported member)
    have withOwn : ∀ (value : Except LengthMismatch (ResultValue Float)) middle, Ends (do
        let values ← duals solver target map others
        return (entry.id, value) :: values) middle
        (fun found _ => ∀ reported ∈ found, reported.1 ∈ (entry :: others).map Entry.id)
        fun _ _ => True := by
      intro value middle
      apply ends_bind
      refine (fromOthers middle).mono ?_ fun _ _ _ => trivial
      exact fun _ _ keys => ends_pure (List.forall_mem_cons.mpr ⟨List.mem_cons_self, keys⟩)
    unfold duals
    split
    · exact ends_throw trivial
    · apply ends_then
      intro reported middle
      split
      · exact fromOthers middle
      · split
        · exact ends_then fun _ => withOwn _
        · exact withOwn _ middle

theorem covers_collect (model : Model Float) (map : IndexMap) :
    Ends (collect solver target model map) link (fun found _ => found.Covers model)
      fun _ _ => True := by
  apply ends_bind
  refine objective_of_summary.mono ?_ fun _ _ _ => trivial
  intro facts asked objective
  have rest : ∀ (primals : List (VariableId × Float)) middle,
      (facts.primalStatus.hasValues = true → primals.map Prod.fst = model.vars.ids) → Ends (do
        let duals ← if facts.dualStatus.hasValues then
            duals solver target map model.constraints.entries
          else pure []
        return (⟨model.generation, facts, primals, duals⟩ : ResultRecord)) middle
        (fun found _ => found.Covers model) fun _ _ => True := by
    intro primals middle keys
    dsimp only
    split
    · apply ends_bind
      refine (keys_of_duals _ middle).mono ?_ fun _ _ _ => trivial
      exact fun duals _ dualKeys => ends_pure ⟨objective, keys, dualKeys⟩
    · exact ends_bind (ends_pure (ends_pure ⟨objective, keys, nofun⟩))
  dsimp only
  split
  · apply ends_bind
    refine (keys_of_primals _ asked).mono ?_ fun _ _ _ => trivial
    exact fun primals middle keys => rest primals middle fun _ => keys
  · rename_i absent
    exact ends_bind (ends_pure (rest [] asked fun values => absurd values absent))

end Collect

end Link

namespace Session

variable {solver : Solver World Factory Instance} {session : Session World Factory Instance}

/-! ## Solving -/

def Covered (before after : Session World Factory Instance) : Prop :=
  ∃ found, after.record = some found ∧ found.Covers before.model

theorem covered_step (cached : session.isCached = true) {operation : Operation Factory}
    (solve : operation.isSolve = true) {answer : Answer}
    (done : (step solver session operation).outcome = .ok answer) :
    Covered session (step solver session operation).after := by
  refine Step.of_ends (fun outcome after => outcome = .ok answer → Covered session after) ?_ done
  have collects : ∀ target model map link, Ends (Link.collect solver target model map) link
      (fun found _ => found.Covers model) fun _ _ => True :=
    fun _ model map _ => Link.covers_collect model map
  have solved : Ends (perform solver operation) session (fun _ after => Covered session after)
      fun _ _ => True := by
    cases operation with
    | optimize =>
      exact ends_done ((records_optimize collects cached).mono
        (fun _ _ ended => ended.2.1) fun _ _ _ => trivial)
    | optimizeWith factory =>
      exact ends_done ((records_optimizeWith collects cached factory).mono
        (fun _ _ ended => ended.2.1) fun _ _ _ => trivial)
    | _ => cases solve
  exact solved.mono (fun _ _ covered _ => covered) fun _ _ _ impossible => nomatch impossible

/-! ## Runs -/

/-- There is a model, and a record covers the model that was solved, which has only evolved
since. -/
structure Documented (session : Session World Factory Instance) : Prop where
  cached : session.isCached = true
  record : ∀ found, session.record = some found → ∃ solved : Model Float,
    found.generation = solved.generation ∧ found.Covers solved ∧
      Model.Evolves solved session.model

theorem documented_step (documented : Documented session) (operation : Operation Factory) :
    Documented (step solver session operation).after := by
  have regular := regular_step solver documented.cached operation
  refine ⟨(isCached_step operation).trans documented.cached, ?_⟩
  intro found present
  cases regular.effect with
  | leaves _ _ record =>
    obtain ⟨solved, generation, covers, evolves⟩ :=
      documented.record found (record.symm.trans present)
    exact ⟨solved, generation, covers, evolves.trans regular.model⟩
  | forgets _ record =>
    rw [record] at present
    cases present
  | writes solve done record =>
    obtain ⟨answer, done⟩ := done
    obtain ⟨written, writtenPresent, generation⟩ := record
    obtain ⟨covering, coveringPresent, covers⟩ := covered_step documented.cached solve done
    cases writtenPresent.symm.trans present
    cases coveringPresent.symm.trans present
    exact ⟨session.model, generation, covers, regular.model⟩

theorem documented_finish (operations : List (Operation Factory))
    {session : Session World Factory Instance} (documented : Documented session) :
    Documented (finish solver session operations) := by
  induction operations generalizing session with
  | nil => exact documented
  | cons operation others inductionHypothesis =>
    exact inductionHypothesis (documented_step documented operation)

theorem Opened.documented (opened : Opened solver session) (cached : session.isCached = true) :
    Documented session :=
  ⟨cached, fun found present => absurd present (by rw [opened.unrecorded]; nofun)⟩

theorem Opened.reachable (opened : Opened solver session) : session.model.Reachable := by
  cases opened with
  | start configuration world opening done =>
    exact (reachable_opening opening configuration world).of_ok done

theorem Documented.covers (documented : Documented session) {record : ResultRecord}
    (current : Current session record) : record.Covers session.model := by
  obtain ⟨solved, generation, covers, evolves⟩ := documented.record record current.present
  exact covers.of_content (evolves.same (generation.symm.trans current.generation))

structure Unreadable (cause : Error) (session : Session World Factory Instance) : Prop where
  cached : session.isCached = true
  refused : session.readableRecord = .error cause

theorem current_or_unreadable (cached : session.isCached = true) :
    (∃ record, Current session record) ∨ ∃ cause, Unreadable cause session := by
  cases present : session.record with
  | none =>
    refine .inr ⟨.notAttached .solve, cached, ?_⟩
    unfold readableRecord
    rw [present]
  | some record =>
    by_cases isCurrent : record.isCurrent session.model = true
    · exact .inl ⟨record, cached, present, beq_iff_eq.mp isCurrent⟩
    · refine .inr ⟨.stale .results, cached, ?_⟩
      unfold readableRecord
      rw [present]
      exact if_neg isCurrent

theorem Unreadable.currentRecord? {cause : Error} (unreadable : Unreadable cause session) :
    session.currentRecord? = none := by
  have refused := unreadable.refused
  unfold readableRecord at refused
  unfold Session.currentRecord?
  cases present : session.record with
  | none => rfl
  | some record =>
    rw [present] at refused
    dsimp only at refused
    split at refused
    · cases refused
    · rename_i differs
      rw [Option.filter_some, if_neg differs]

end Session

end ConicModel
