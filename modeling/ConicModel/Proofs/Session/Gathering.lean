import ConicModel.Proofs.Model.WellFormed
import ConicModel.Proofs.Session.Custody

/-!
Contract: what is asked while the record of a solve is collected, and what the record keeps.

Owns:
- `Gathers`, which ties what was found for the items of a list to one read for each of them;
- `Reported`, which says what the reply to a question about a dual value tells;
- the transcript of collecting a record, and the record that comes of it.

Does not own: when a record is collected.

A record keeps values under ids and leaves some of them out, while the transcript keeps the
reads in their order.  The two agree because no id occurs twice.
-/

namespace ConicModel

variable {World Factory Instance α : Type}

/-! ## One read for each item -/

section Gathers

variable {ι β : Type} {kind : EntityKind}

def foundUnder (found : List (EntityId kind × β)) (id : EntityId kind) : Option β :=
  (found.find? fun pair => pair.1 == id).map Prod.snd

theorem foundUnder_own {found : List (EntityId kind × β)} {id : EntityId kind}
    (absent : ∀ pair ∈ found, pair.1 ≠ id) (answer : Option β) :
    foundUnder (answer.toList.map (fun value => (id, value)) ++ found) id = answer := by
  unfold foundUnder
  cases answer with
  | none =>
    have missing : found.find? (fun pair => pair.1 == id) = none :=
      List.find?_eq_none.mpr fun pair member => by simpa using absent pair member
    simp [missing]
  | some value => simp

theorem foundUnder_other {found : List (EntityId kind × β)} {id other : EntityId kind}
    (differs : id ≠ other) (answer : Option β) :
    foundUnder (answer.toList.map (fun value => (id, value)) ++ found) other =
      foundUnder found other := by
  unfold foundUnder
  cases answer with
  | none => rfl
  | some value => simp [differs]

/-- One read was made for each item, in their order, and what is found under the key of an item
is what its read gave. -/
structure Gathers (key : ι → EntityId kind) (gives : ι → JournalEntry Factory → Option β → Prop)
    (items : List ι) (found : List (EntityId kind × β)) (reads : List (JournalEntry Factory)) :
    Prop where
  keys : ∀ pair ∈ found, pair.1 ∈ items.map key
  count : reads.length = items.length
  answers : ∀ (place : Nat) (item : ι), items[place]? = some item →
    ∃ read, reads[place]? = some read ∧ gives item read (foundUnder found (key item))

variable {key : ι → EntityId kind} {gives : ι → JournalEntry Factory → Option β → Prop}

theorem Gathers.nil : Gathers key gives [] [] [] where
  keys := by simp
  count := rfl
  answers := by simp

theorem Gathers.cons {item : ι} {items : List ι} {found : List (EntityId kind × β)}
    {read : JournalEntry Factory} {reads : List (JournalEntry Factory)} {answer : Option β}
    (fresh : key item ∉ items.map key) (given : gives item read answer)
    (gathers : Gathers key gives items found reads) :
    Gathers key gives (item :: items)
      (answer.toList.map (fun value => (key item, value)) ++ found) (read :: reads) where
  keys := by
    intro pair member
    rcases List.mem_append.mp member with own | other
    · obtain ⟨value, _, rfl⟩ := List.mem_map.mp own
      exact List.mem_cons_self
    · exact List.mem_cons_of_mem _ (gathers.keys pair other)
  count := congrArg (· + 1) gathers.count
  answers := by
    intro place other here
    cases place with
    | zero =>
      cases here
      have absent : ∀ pair ∈ found, pair.1 ≠ key item := by
        rintro pair member same
        exact fresh (same ▸ gathers.keys pair member)
      refine ⟨read, rfl, ?_⟩
      rw [foundUnder_own absent]
      exact given
    | succ place =>
      obtain ⟨own, present, gave⟩ := gathers.answers place other here
      have differs : key item ≠ key other := by
        intro same
        exact fresh (same ▸ List.mem_map_of_mem (List.mem_of_getElem? here))
      refine ⟨own, present, ?_⟩
      rw [foundUnder_other differs]
      exact gave

end Gathers

/-! ## Replies -/

/-- Why a reply gives no value: it is a failure, or its value is of the wrong type. -/
inductive Fails (cast : AttributeValue → Except SolverError α) :
    Except SolverError AttributeValue → SolverError → Prop where
  | error (failure : SolverError) : Fails cast (.error failure) failure
  | mistyped {value : AttributeValue} {complaint : SolverError}
      (rejected : cast value = .error complaint) : Fails cast (.ok value) complaint

/-- What the reply to a question about a dual value tells for a constraint with the set: a
vector, a number as a vector of one, or that there is no dual value. -/
inductive Reported (set : ConstraintSet Float) : Except SolverError AttributeValue →
    Option (Except LengthMismatch (ResultValue Float)) → Prop where
  | vector (values : List Float) : Reported set (.ok (.vector values)) (some (decode set values))
  | float (value : Float) : Reported set (.ok (.float value)) (some (decode set [value]))
  | unsupported {cause : SolverError} (unknown : cause.isUnsupported = true) :
      Reported set (.error cause) none

namespace Link

section Reads

variable {solver : Solver World Factory Instance} {target : Tracked Factory Instance}
  {link : Recorded World Factory Instance}

/-- A reply is interpreted, or it fails. -/
theorem ends_read (wanted : Attribute)
    (cast : Attribute → AttributeValue → Except SolverError α) :
    Ends (read solver.recorded target wanted cast) link
      (fun found after => ∃ value world, cast wanted value = .ok found ∧
        after = link.noted world target (.get wanted (.ok value)))
      fun cause after => ∃ reply failure world, Fails (cast wanted) reply failure ∧
        cause = .solver failure ∧ after = link.noted world target (.get wanted reply) := by
  apply ends_bind
  show Ends (call (Journal.recordOf target (fun inner => solver.get inner wanted)
    (.get wanted))) _ _ _
  apply ends_callOf
  · intro value world
    cases interpreted : cast wanted value with
    | ok found => exact ends_pure ⟨value, world, interpreted, rfl⟩
    | error cause => exact ends_throw ⟨.ok value, cause, world, .mistyped interpreted, rfl, rfl⟩
  · exact fun cause world => ⟨.error cause, cause, world, .error cause, rfl, rfl⟩

/-- A reply is interpreted, or there is none that the instance knows, or it fails for another
reason. -/
theorem ends_read? (wanted : Attribute)
    (cast : Attribute → AttributeValue → Except SolverError α) :
    Ends (read? solver.recorded target wanted cast) link
      (fun found after => ∃ reply world,
        after = link.noted world target (.get wanted reply) ∧
        ((∃ value read, reply = .ok value ∧ cast wanted value = .ok read ∧ found = some read) ∨
          ∃ cause : SolverError, reply = .error cause ∧ cause.isUnsupported = true ∧
            found = none))
      fun cause after => ∃ reply failure world, Fails (cast wanted) reply failure ∧
        (reply = .error failure → failure.isUnsupported = false) ∧
        cause = .solver failure ∧ after = link.noted world target (.get wanted reply) := by
  have replied : Ends (solver.recorded.get target wanted) link.world
      (fun value journal =>
        ∃ world, journal = link.world.noted world target (.get wanted (.ok value)))
      fun cause journal =>
        ∃ world, journal = link.world.noted world target (.get wanted (.error cause)) := by
    show Ends (Journal.recordOf target (fun inner => solver.get inner wanted) (.get wanted)) _ _ _
    exact Journal.ends_recordOf (fun _ world => ⟨world, rfl⟩) fun _ world => ⟨world, rfl⟩
  unfold Ends read? at *
  cases reply : solver.recorded.get target wanted link.world with
  | ok value journal =>
    rw [reply] at replied
    obtain ⟨world, rfl⟩ := replied
    dsimp only
    cases interpreted : cast wanted value with
    | ok found => exact ⟨.ok value, world, rfl, .inl ⟨value, found, rfl, interpreted, rfl⟩⟩
    | error cause => exact ⟨.ok value, cause, world, .mistyped interpreted, nofun, rfl, rfl⟩
  | error cause journal =>
    rw [reply] at replied
    obtain ⟨world, rfl⟩ := replied
    dsimp only
    by_cases unsupported : cause.isUnsupported = true
    · rw [if_pos unsupported]
      exact ⟨.error cause, world, rfl, .inr ⟨cause, rfl, unsupported, rfl⟩⟩
    · rw [if_neg unsupported]
      exact ⟨.error cause, cause, world, .error cause, fun _ => Bool.eq_false_iff.mpr unsupported,
        rfl, rfl⟩

theorem ends_variablePrimal (index : VariableIndex) :
    Ends (variablePrimal solver.recorded target index) link
      (fun value after => ∃ world,
        after = link.noted world target (.get (.variablePrimal index) (.ok (.float value))))
      fun _ _ => True := by
  refine (ends_read _ _).mono ?_ fun _ _ _ => trivial
  rintro value after ⟨replied, world, interpreted, rfl⟩
  cases replied <;> cases interpreted
  exact ⟨world, rfl⟩

theorem ends_constraintDual? (index : ConstraintIndex) (set : ConstraintSet Float) :
    Ends (constraintDual? solver.recorded target index set) link
      (fun found after => ∃ reply world, Reported set reply found ∧
        after = link.noted world target (.get (.constraintDual index) reply))
      fun _ _ => True := by
  apply ends_bind
  refine (ends_read? _ _).mono ?_ fun _ _ _ => trivial
  rintro found after ⟨reply, world, rfl, ⟨value, read, rfl, interpreted, rfl⟩ |
    ⟨cause, rfl, unsupported, rfl⟩⟩
  · apply ends_pure
    refine ⟨.ok value, world, ?_, rfl⟩
    cases value <;> cases interpreted
    · exact .float _
    · exact .vector _
  · exact ends_pure ⟨.error cause, world, .unsupported unsupported, rfl⟩

end Reads

/-! ## Primal and dual values -/

def GivesPrimal (target : Tracked Factory Instance) (map : IndexMap) (id : VariableId)
    (read : JournalEntry Factory) (answer : Option Float) : Prop :=
  ∃ index value, map.vars.index? id = some index ∧ answer = some value ∧
    read = ⟨target.number, target.factory, .get (.variablePrimal index) (.ok (.float value))⟩

def GivesDual (target : Tracked Factory Instance) (map : IndexMap)
    (entry : Entry .con (Constraint Float)) (read : JournalEntry Factory)
    (answer : Option (Except LengthMismatch (ResultValue Float))) : Prop :=
  ∃ index reply, map.constraints.index? entry.id = some index ∧
    Reported entry.content.set reply answer ∧
    read = ⟨target.number, target.factory, .get (.constraintDual index) reply⟩

section Values

variable {solver : Solver World Factory Instance} {target : Tracked Factory Instance}
  {map : IndexMap}

theorem ends_primals {ids : List VariableId} (distinct : ids.Nodup)
    {link : Recorded World Factory Instance} :
    Ends (primals solver.recorded target map ids) link
      (fun found after => ∃ reads, after.world.entries = link.world.entries ++ reads ∧
        Gathers (fun id => id) (GivesPrimal target map) ids found reads)
      fun _ _ => True := by
  induction ids generalizing link with
  | nil => exact ends_pure ⟨[], (List.append_nil _).symm, .nil⟩
  | cons id others inductionHypothesis =>
    obtain ⟨fresh, distinctOthers⟩ := List.nodup_cons.mp distinct
    unfold primals
    split
    · exact ends_throw trivial
    · rename_i index present
      apply ends_bind
      refine (ends_variablePrimal index).mono ?_ fun _ _ _ => trivial
      rintro value _ ⟨world, rfl⟩
      have given : GivesPrimal target map id
          ⟨target.number, target.factory, .get (.variablePrimal index) (.ok (.float value))⟩
          (some value) := ⟨index, value, present, rfl, rfl⟩
      apply ends_bind
      refine (inductionHypothesis distinctOthers).mono ?_ fun _ _ _ => trivial
      rintro found after ⟨reads, joined, gathers⟩
      refine ends_pure ⟨_ :: reads, ?_, .cons (by simpa using fresh) given gathers⟩
      exact joined.trans (List.append_assoc _ _ _)

theorem ends_duals {entries : List (Entry .con (Constraint Float))}
    (distinct : (entries.map Entry.id).Nodup) {link : Recorded World Factory Instance} :
    Ends (duals solver.recorded target map entries) link
      (fun found after => ∃ reads, after.world.entries = link.world.entries ++ reads ∧
        Gathers Entry.id (GivesDual target map) entries found reads)
      fun _ _ => True := by
  induction entries generalizing link with
  | nil => exact ends_pure ⟨[], (List.append_nil _).symm, .nil⟩
  | cons entry others inductionHypothesis =>
    obtain ⟨fresh, distinctOthers⟩ := List.nodup_cons.mp distinct
    unfold duals
    split
    · exact ends_throw trivial
    · rename_i index present
      apply ends_bind
      refine (ends_constraintDual? index entry.content.set).mono ?_ fun _ _ _ => trivial
      rintro answer _ ⟨reply, world, reported, rfl⟩
      have given : GivesDual target map entry
          ⟨target.number, target.factory, .get (.constraintDual index) reply⟩ answer :=
        ⟨index, reply, present, reported, rfl⟩
      cases answer with
      | none =>
        refine (inductionHypothesis distinctOthers).mono ?_ fun _ _ _ => trivial
        rintro found after ⟨reads, joined, gathers⟩
        refine ⟨_ :: reads, ?_, .cons fresh given gathers⟩
        exact joined.trans (List.append_assoc _ _ _)
      | some value =>
        -- A report of a mismatch comes in between, which is not a call.
        have rest : ∀ events, Ends (do
              let values ← duals solver.recorded target map others
              return (entry.id, value) :: values)
            { link.noted world target (.get (.constraintDual index) reply) with events := events }
            (fun found after => ∃ reads, after.world.entries = link.world.entries ++ reads ∧
              Gathers Entry.id (GivesDual target map) (entry :: others) found reads)
            fun _ _ => True := by
          intro events
          apply ends_bind
          refine (inductionHypothesis distinctOthers).mono ?_ fun _ _ _ => trivial
          rintro found after ⟨reads, joined, gathers⟩
          refine ends_pure ⟨_ :: reads, ?_, .cons fresh given gathers⟩
          exact joined.trans (List.append_assoc _ _ _)
        dsimp only
        split
        · exact ends_bind (ends_modify (rest _))
        · exact rest link.events

end Values

/-! ## The record -/

def AsksFact (entry : JournalEntry Factory) : Prop :=
  ∃ wanted reply, entry.call = .get wanted reply ∧ wanted.subject? = none

def Inquires (before after : Recorded World Factory Instance) : Prop :=
  ∃ facts, after.world.entries = before.world.entries ++ facts ∧ ∀ entry ∈ facts, AsksFact entry

instance : IsPreorder (Recorded World Factory Instance) Inquires where
  refl link := ⟨[], (List.append_nil _).symm, by simp⟩
  trans first second third := by
    rintro ⟨facts, joined, asked⟩ ⟨others, othersJoined, othersAsked⟩
    refine ⟨facts ++ others, ?_, ?_⟩
    · rw [othersJoined, joined, List.append_assoc]
    · exact List.forall_mem_append.mpr ⟨asked, othersAsked⟩

theorem inquires_summary {solver : Solver World Factory Instance}
    {target : Tracked Factory Instance} : Moves Inquires (summary solver.recorded target) := by
  apply moves_summary
  intro wanted general link
  obtain ⟨world, reply, same⟩ := Journal.stateAfter_recordOf target
    (fun inner => solver.get inner wanted) (.get wanted) link.world
  refine ⟨[⟨target.number, target.factory, .get wanted reply⟩], congrArg Journal.entries same, ?_⟩
  exact List.forall_mem_singleton.mpr ⟨wanted, reply, rfl, general⟩

/-- A record, and the reads from which its values were made: one for each variable and one for
each constraint, where there are such values. -/
structure Collects (target : Tracked Factory Instance) (model : Model Float) (map : IndexMap)
    (record : ResultRecord) (primals duals : List (JournalEntry Factory)) : Prop where
  primals : if record.summary.primalStatus.hasValues then
      Gathers (fun id => id) (GivesPrimal target map) model.vars.ids record.primals primals
    else primals = []
  duals : if record.summary.dualStatus.hasValues then
      Gathers Entry.id (GivesDual target map) model.constraints.entries record.duals duals
    else duals = []

theorem ends_collect {solver : Solver World Factory Instance} {target : Tracked Factory Instance}
    {model : Model Float} (wellFormed : model.WellFormed) (map : IndexMap)
    {link : Recorded World Factory Instance} :
    Ends (collect solver.recorded target model map) link
      (fun record after => ∃ facts primals duals,
        after.world.entries = link.world.entries ++ (facts ++ primals ++ duals) ∧
        (∀ entry ∈ facts, AsksFact entry) ∧ Collects target model map record primals duals)
      fun _ _ => True := by
  apply ends_bind
  refine (inquires_summary link).mono ?_ fun _ _ _ => trivial
  rintro summary asked ⟨facts, factsJoined, asksFacts⟩
  have rest : ∀ (found : List (VariableId × Float)) (primals : List (JournalEntry Factory))
      (middle : Recorded World Factory Instance),
      middle.world.entries = asked.world.entries ++ primals →
      (if summary.primalStatus.hasValues then
          Gathers (fun id => id) (GivesPrimal target map) model.vars.ids found primals
        else primals = []) →
      Ends (do
        let duals ← if summary.dualStatus.hasValues then
            Link.duals solver.recorded target map model.constraints.entries
          else pure []
        return (⟨model.generation, summary, found, duals⟩ : ResultRecord)) middle
        (fun record after => ∃ facts primals duals,
          after.world.entries = link.world.entries ++ (facts ++ primals ++ duals) ∧
          (∀ entry ∈ facts, AsksFact entry) ∧ Collects target model map record primals duals)
        fun _ _ => True := by
    intro found primals middle primalsJoined gathersPrimals
    dsimp only
    split
    · rename_i values
      apply ends_bind
      refine (ends_duals wellFormed.constraints.ids_nodup).mono ?_ fun _ _ _ => trivial
      rintro foundDuals after ⟨duals, dualsJoined, gathersDuals⟩
      refine ends_pure ⟨facts, primals, duals, ?_, asksFacts, gathersPrimals, ?_⟩
      · rw [dualsJoined, primalsJoined, factsJoined]
        simp only [List.append_assoc]
      · rw [if_pos values]
        exact gathersDuals
    · rename_i absent
      refine ends_bind (ends_pure (ends_pure
        ⟨facts, primals, [], ?_, asksFacts, gathersPrimals, ?_⟩))
      · rw [primalsJoined, factsJoined]
        simp only [List.append_assoc, List.append_nil]
      · rw [if_neg absent]
  dsimp only
  split
  · rename_i values
    apply ends_bind
    refine (ends_primals wellFormed.vars.ids_nodup).mono ?_ fun _ _ _ => trivial
    rintro found middle ⟨primals, primalsJoined, gathersPrimals⟩
    refine rest found primals middle primalsJoined ?_
    rw [if_pos values]
    exact gathersPrimals
  · rename_i absent
    refine ends_bind (ends_pure (rest [] [] asked (List.append_nil _).symm ?_))
    rw [if_neg absent]

end Link

end ConicModel
