import ConicModel.Proofs.Result.Decoding
import ConicModel.Proofs.Session.Accord
import ConicModel.Proofs.Session.Recollection

/-!
Contract: what a dual value of another length changes in the record of a solve.

Owns:
- `Solver.DifferInDual`, two instances that answer alike but for the dual value under one index;
- `ResultRecord.DiffersInDual`, in what the records differ that are read of them;
- the fact that both records are read or neither is;
- the fact that only looking at dual values under the index tells the records apart.

Does not own: the sessions that solve.

The two instances may be of different kinds and keep different worlds.  All that is asked is that
some relation between their worlds is kept by each call that the solve makes.
-/

namespace ConicModel

variable {World Factory Instance World' Factory' Instance' : Type}

/-- Two instances that answer alike but for the dual value under one index: with the first it has
as many components as a set, and with the second it has another number of them. -/
structure Solver.DifferInDual (first : Solver World Factory Instance) (target : Instance)
    (second : Solver World' Factory' Instance') (target' : Instance')
    (agree : World → World' → Prop) (index : ConstraintIndex) (set : ConstraintSet Float)
    (received : Nat) : Prop where
  solves : Accords agree (first.optimize target) (second.optimize target') Eq
  others : ∀ wanted, wanted ≠ .constraintDual index →
    Accords agree (first.get target wanted) (second.get target' wanted) Eq
  dual : ∀ world world', agree world world' → ∃ reply after values reply' after' values',
    first.get target (.constraintDual index) world = .ok reply after ∧
      Attribute.asVector (.constraintDual index) reply = .ok values ∧
      values.length = set.dimension ∧
      second.get target' (.constraintDual index) world' = .ok reply' after' ∧
      Attribute.asVector (.constraintDual index) reply' = .ok values' ∧
      values'.length = received ∧ agree after after'
  malformed : received ≠ set.dimension

/-- Records of one model that agree but for dual values under one index: that of a constraint in
question has the right length in the first record only. -/
structure ResultRecord.DiffersInDual (model : Model Float) (map : IndexMap)
    (index : ConstraintIndex) (id : ConstraintId) (set : ConstraintSet Float) (received : Nat)
    (left right : ResultRecord) : Prop where
  generation : left.generation = model.generation
  generation' : right.generation = model.generation
  summary : right.summary = left.summary
  primals : right.primals = left.primals
  elsewhere : ∀ other, map.constraints.index? other ≠ some index →
    right.dual? other = left.dual? other
  here : left.summary.dualStatus.hasValues = true →
    (∃ value, left.dual? id = some (.ok value)) ∧
      right.dual? id = some (.error ⟨set.name, set.dimension, received⟩)

/-! ## Reading dual values -/

namespace Link

variable {solver : Solver World Factory Instance} {target : Instance} {map : IndexMap}

def dualIn (duals : List (ConstraintId × Except LengthMismatch (ResultValue Float)))
    (id : ConstraintId) : Option (Except LengthMismatch (ResultValue Float)) :=
  (duals.find? fun entry => entry.1 == id).map Prod.snd

theorem dualIn_cons (id wanted : ConstraintId)
    (value : Except LengthMismatch (ResultValue Float))
    (duals : List (ConstraintId × Except LengthMismatch (ResultValue Float))) :
    dualIn ((id, value) :: duals) wanted =
      if id = wanted then some value else dualIn duals wanted := by
  unfold dualIn
  rw [List.find?_cons]
  by_cases same : id = wanted
  · rw [if_pos same, beq_iff_eq.mpr same]
    rfl
  · rw [if_neg same, beq_eq_false_iff_ne.mpr same]

def reportMismatch (id : ConstraintId) :
    Except LengthMismatch (ResultValue Float) → Action World Factory Instance Unit
  | .ok _ => return ()
  | .error mismatch => report (.dualRejected id (Session.Error.message (.decode mismatch)))

theorem duals_cons {entry : Entry .con (Constraint Float)}
    {others : List (Entry .con (Constraint Float))} {index : ConstraintIndex}
    (present : map.constraints.index? entry.id = some index) :
    duals solver target map (entry :: others) = (do
      match ← constraintDual? solver target index entry.content.set with
      | none => duals solver target map others
      | some value =>
        reportMismatch entry.id value
        let values ← duals solver target map others
        return (entry.id, value) :: values) := by
  rw [duals, present]
  dsimp only
  congr 1
  funext found
  cases found with
  | none => rfl
  | some value => cases value <;> rfl

def primalsIf (solver : Solver World Factory Instance) (target : Instance) (map : IndexMap)
    (status : ResultStatus) (ids : List VariableId) :
    Action World Factory Instance (List (VariableId × Float)) :=
  if status.hasValues then primals solver target map ids else return []

def dualsIf (solver : Solver World Factory Instance) (target : Instance) (map : IndexMap)
    (status : ResultStatus) (entries : List (Entry .con (Constraint Float))) :
    Action World Factory Instance
      (List (ConstraintId × Except LengthMismatch (ResultValue Float))) :=
  if status.hasValues then duals solver target map entries else return []

theorem collect_eq (model : Model Float) :
    collect solver target model map = (do
      let summary ← summary solver target
      let primals ← primalsIf solver target map summary.primalStatus model.vars.ids
      let duals ← dualsIf solver target map summary.dualStatus model.constraints.entries
      return ⟨model.generation, summary, primals, duals⟩) := by
  unfold collect primalsIf dualsIf
  congr 1
  funext summary
  cases summary.primalStatus.hasValues <;> cases summary.dualStatus.hasValues <;> rfl

theorem constraintDual?_of_ok {index : ConstraintIndex} {set : ConstraintSet Float}
    {link : Link World Factory Instance} {reply : AttributeValue} {world : World}
    {values : List Float}
    (replied : solver.get target (.constraintDual index) link.world = .ok reply world)
    (interpreted : Attribute.asVector (.constraintDual index) reply = .ok values) :
    constraintDual? solver target index set link =
      .ok (some (decode set values)) { link with world := world } := by
  have read : read? solver target (.constraintDual index) Attribute.asVector link =
      .ok (some values) { link with world := world } := by
    unfold read?
    rw [replied]
    dsimp only
    rw [interpreted]
    rfl
  exact bind_of_ok read

/-- Dual values that were read of two instances, for constraints of which one is in question.
Those at other indices are the same, and that of the constraint in question could be shaped by its
set in the first case only. -/
structure DualsDiffer (map : IndexMap) (index : ConstraintIndex) (id : ConstraintId)
    (set : ConstraintSet Float) (received : Nat) (entries : List (Entry .con (Constraint Float)))
    (found found' : List (ConstraintId × Except LengthMismatch (ResultValue Float))) : Prop where
  elsewhere : ∀ other, map.constraints.index? other ≠ some index →
    dualIn found' other = dualIn found other
  here : ∀ entry, entries.find? (fun entry => entry.id == id) = some entry →
    entry.content.set = set →
      (∃ value, dualIn found id = some (.ok value)) ∧
        dualIn found' id = some (.error ⟨set.name, set.dimension, received⟩)

namespace DualsDiffer

variable {index : ConstraintIndex} {id : ConstraintId} {set : ConstraintSet Float}
  {received : Nat} {entry : Entry .con (Constraint Float)}
  {others : List (Entry .con (Constraint Float))}
  {found found' : List (ConstraintId × Except LengthMismatch (ResultValue Float))}
  (differs : DualsDiffer map index id set received others found found')
include differs

/-- A constraint without a dual value does not count. -/
theorem skip (different : entry.id ≠ id) :
    DualsDiffer map index id set received (entry :: others) found found' where
  elsewhere := differs.elsewhere
  here wanted present is := by
    rw [List.find?_cons_of_neg (by simpa using different)] at present
    exact differs.here wanted present is

/-- A constraint at another index has one dual value. -/
theorem other (different : entry.id ≠ id) (value : Except LengthMismatch (ResultValue Float)) :
    DualsDiffer map index id set received (entry :: others) ((entry.id, value) :: found)
      ((entry.id, value) :: found') where
  elsewhere wanted apart := by
    rw [dualIn_cons, dualIn_cons, differs.elsewhere wanted apart]
  here wanted present is := by
    rw [dualIn_cons, dualIn_cons, if_neg different, if_neg different]
    exact (differs.skip different).here wanted present is

/-- A constraint at the index has two dual values, of which the second does not fit the set in
question. -/
theorem own (present : map.constraints.index? entry.id = some index) {values values' : List Float}
    (length : values.length = set.dimension) (length' : values'.length = received)
    (malformed : received ≠ set.dimension) :
    DualsDiffer map index id set received (entry :: others)
      ((entry.id, decode entry.content.set values) :: found)
      ((entry.id, decode entry.content.set values') :: found') where
  elsewhere wanted apart := by
    have different : entry.id ≠ wanted := by
      rintro rfl
      exact apart present
    rw [dualIn_cons, dualIn_cons, if_neg different, if_neg different,
      differs.elsewhere wanted apart]
  here wanted found is := by
    rw [dualIn_cons, dualIn_cons]
    by_cases same : entry.id = id
    · rw [List.find?_cons_of_pos (by simpa using same)] at found
      cases found
      rw [if_pos same, if_pos same, is]
      obtain ⟨value, decoded⟩ := decode_of_length length
      refine ⟨⟨value, congrArg some decoded⟩, ?_⟩
      rw [decode_of_mismatch (length' ▸ malformed), length']
    · rw [if_neg same, if_neg same]
      exact (differs.skip same).here wanted found is

end DualsDiffer

variable {first : Solver World Factory Instance} {second : Solver World' Factory' Instance'}
  {target' : Instance'} {agree : World → World' → Prop} {index : ConstraintIndex}
  {set : ConstraintSet Float} {received : Nat}
  (differ : first.DifferInDual target second target' agree index set received)

section Duals

theorem accords_reportMismatch (id : ConstraintId)
    (value value' : Except LengthMismatch (ResultValue Float)) :
    Accords (Linked agree target target' map)
      (reportMismatch id value : Action World Factory Instance Unit)
      (reportMismatch id value' : Action World' Factory' Instance' Unit) fun _ _ => True := by
  cases value <;> cases value' <;> intro left right linked <;> exact ⟨trivial, { linked with }⟩

include differ

theorem accords_otherDual {other : ConstraintIndex} (different : other ≠ index)
    (set' : ConstraintSet Float) :
    Accords (Linked agree target target' map) (constraintDual? first target other set')
      (constraintDual? second target' other set') Eq := by
  refine accords_bind (accords_read? (differ.others _ ?_) _) fun _ _ same =>
    accords_pure (same ▸ rfl)
  exact fun same => different (Attribute.constraintDual.inj same)

/-- Under the index there is a value in both cases, of the right length in the first only. -/
theorem accords_ownDual (set' : ConstraintSet Float) :
    Accords (Linked agree target target' map) (constraintDual? first target index set')
      (constraintDual? second target' index set') fun found found' =>
        ∃ values values', found = some (decode set' values) ∧ found' = some (decode set' values') ∧
          values.length = set.dimension ∧ values'.length = received := by
  refine accords_of_ok fun left right linked => ?_
  obtain ⟨reply, after, values, reply', after', values', replied, interpreted, length, replied',
    interpreted', length', agreed⟩ := differ.dual _ _ linked.world
  exact ⟨_, _, _, _, constraintDual?_of_ok replied interpreted,
    constraintDual?_of_ok replied' interpreted',
    ⟨values, values', rfl, rfl, length, length'⟩, linked.withWorld agreed⟩

theorem accords_duals {id : ConstraintId} (mapped : map.constraints.index? id = some index) :
    ∀ entries : List (Entry .con (Constraint Float)),
      Accords (Linked agree target target' map) (duals first target map entries)
        (duals second target' map entries) (DualsDiffer map index id set received entries)
  | [] => accords_pure ⟨fun _ _ => rfl, nofun⟩
  | entry :: others => by
    have rest := accords_duals mapped others
    cases present : map.constraints.index? entry.id with
    | none =>
      rw [duals, duals, present]
      exact accords_throw _
    | some here =>
      rw [duals_cons present, duals_cons present]
      by_cases own : here = index
      · subst own
        apply accords_bind (accords_ownDual differ entry.content.set)
        rintro _ _ ⟨values, values', rfl, rfl, length, length'⟩
        apply accords_bind (accords_reportMismatch entry.id _ _)
        rintro _ _ -
        apply accords_bind rest
        intro found found' differs
        exact accords_pure (differs.own present length length' differ.malformed)
      · have apart : entry.id ≠ id := by
          rintro rfl
          exact own (Option.some.inj (present.symm.trans mapped))
        apply accords_bind (accords_otherDual differ own entry.content.set)
        rintro found _ rfl
        cases found with
        | none => exact rest.mono fun _ _ differs => differs.skip apart
        | some value =>
          apply accords_bind (accords_reportMismatch entry.id value value)
          rintro _ _ -
          apply accords_bind rest
          intro found found' differs
          exact accords_pure (differs.other apart value)

theorem accords_primalsIf (status : ResultStatus) (ids : List VariableId) :
    Accords (Linked agree target target' map) (primalsIf first target map status ids)
      (primalsIf second target' map status ids) Eq := by
  unfold primalsIf
  split
  · exact accords_primals differ.others ids
  · exact accords_pure rfl

theorem accords_dualsIf {id : ConstraintId} (mapped : map.constraints.index? id = some index)
    (status : ResultStatus) (entries : List (Entry .con (Constraint Float))) :
    Accords (Linked agree target target' map) (dualsIf first target map status entries)
      (dualsIf second target' map status entries) fun found found' =>
        DualsDiffer map index id set received (if status.hasValues then entries else [])
          found found' := by
  unfold dualsIf
  split
  · exact accords_duals differ mapped entries
  · exact accords_pure ⟨fun _ _ => rfl, nofun⟩

theorem accords_collect {model : Model Float} {id : ConstraintId}
    (mapped : map.constraints.index? id = some index)
    {entry : Entry .con (Constraint Float)} (present : model.constraints.entry? id = some entry)
    (is : entry.content.set = set) :
    Accords (Linked agree target target' map) (collect first target model map)
      (collect second target' model map)
      (ResultRecord.DiffersInDual model map index id set received) := by
  rw [collect_eq, collect_eq]
  apply accords_bind (accords_summary differ.others)
  rintro summary _ rfl
  apply accords_bind (accords_primalsIf differ summary.primalStatus model.vars.ids)
  rintro primals _ rfl
  apply accords_bind (accords_dualsIf differ mapped summary.dualStatus model.constraints.entries)
  intro found found' differs
  refine accords_pure ⟨rfl, rfl, rfl, rfl, differs.elsewhere, fun values => ?_⟩
  rw [if_pos values] at differs
  exact differs.here entry present is

end Duals

end Link

/-! ## Reading two records -/

def Session.ResultRead.dualOf? : Session.ResultRead → Option ConstraintId
  | .dual (.con id) => some id
  | .hasDual (.con id) => some id
  | _ => none

namespace ResultRecord.DiffersInDual

open Session (ResultRead isReadable)

variable {model : Model Float} {map : IndexMap} {index : ConstraintIndex} {id : ConstraintId}
  {set : ConstraintSet Float} {received : Nat} {left right : ResultRecord}
  (differs : left.DiffersInDual model map index id set received right)
include differs

/-- Only what looks at a dual value under the index tells the records apart. -/
theorem answerTo_eq (result : ResultRead)
    (apart : ∀ other, result.dualOf? = some other → map.constraints.index? other ≠ some index) :
    right.answerTo model result = left.answerTo model result := by
  have same : ∀ other, result.dualOf? = some other → right.dual? other = left.dual? other :=
    fun other looks => differs.elsewhere other (apart other looks)
  obtain ⟨generation, summary, primals, duals⟩ := left
  obtain ⟨generation', summary', primals', duals'⟩ := right
  obtain rfl : summary' = summary := differs.summary
  obtain rfl : primals' = primals := differs.primals
  cases result with
  | dual entity =>
    cases entity with
    | var id => rfl
    | con id => simp only [answerTo, dualOf, same id rfl]
  | hasDual entity =>
    cases entity with
    | var id => rfl
    | con id => simp only [answerTo, same id rfl]
  | valueOfEntity entity => cases entity <;> rfl
  | _ => rfl

variable (values : left.summary.dualStatus.hasValues = true)
include values

theorem hasValues_second : right.summary.dualStatus.hasValues = true := by
  rw [differs.summary]
  exact values

theorem answerTo_hasDual :
    left.answerTo model (.hasDual (.con id)) = .ok (.flag true) ∧
      right.answerTo model (.hasDual (.con id)) = .ok (.flag false) := by
  obtain ⟨⟨value, read⟩, read'⟩ := differs.here values
  simp only [answerTo, values, differs.hasValues_second values, read, read', isReadable,
    Bool.true_and, and_self]

theorem answerTo_dual (live : model.constraints.contains id = true) :
    (∃ value, left.answerTo model (.dual (.con id)) = .ok (.value value)) ∧
      right.answerTo model (.dual (.con id)) =
        .error (.decode ⟨set.name, set.dimension, received⟩) := by
  obtain ⟨⟨value, read⟩, read'⟩ := differs.here values
  simp only [answerTo, dualOf, values, differs.hasValues_second values, if_true, live, read, read']
  exact ⟨⟨value, rfl⟩, rfl⟩

end ResultRecord.DiffersInDual

end ConicModel
