import ConicModel.Proofs.Model.Declaration

/-!
Contract: the lines about variables and constraints, read back.

Owns:
- the restrictions that are written for a variable, and what reading them does;
- what reading the line of a constraint does;
- the draft that the whole text of a model leads to.

Does not own: the comparison of the two models.
-/

namespace ConicModel

/-! ## Bounds in parts -/

namespace Bounds

variable {K : Type} [ExtendedNumber K] {bounds : Bounds K}

/-- Sound bounds stay sound without their upper end. -/
theorem Sound.withoutUpper (sound : bounds.Sound) : Sound { bounds with upper := none } := by
  obtain ⟨lower, upper, fixed⟩ := bounds
  obtain ⟨defined, exclusive, _⟩ := sound
  refine ⟨?_, ?_, ?_⟩
  · cases upper <;> simp_all [hasUndefined]
  · cases upper <;> simp_all [isFixed, isBounded]
  · cases lower <;> rfl

/-- Sound bounds stay sound with their fixed value alone. -/
theorem Sound.withoutEnds (sound : bounds.Sound) :
    Sound { bounds with lower := none, upper := none } := by
  obtain ⟨lower, upper, fixed⟩ := bounds
  obtain ⟨defined, _, _⟩ := sound
  refine ⟨?_, ?_, rfl⟩
  · simp_all [hasUndefined]
  · simp [isBounded]

end Bounds

namespace Model

/-! ## The lines of a variable -/

def categorySets : Category → List (ConstraintSet Float)
  | .continuous => []
  | .integer => [.integer]
  | .binary => [.zeroOne]

def restrictions (content : Variable Float) : List (ConstraintSet Float) :=
  content.bounds.fixed.toList.map .equalTo ++
    (content.bounds.lower.toList.map .greaterThan ++
      (content.bounds.upper.toList.map .lessThan ++ categorySets content.category))

theorem variableLines_eq (model : Model Float) (entry : Entry .var (Variable Float)) :
    model.variableLines entry =
      (restrictions entry.content).map (relationChars (model.labelChars entry.id)) := by
  obtain ⟨id, ⟨⟨lower, upper, fixed⟩, category⟩, name, metadata⟩ := entry
  cases lower <;> cases upper <;> cases fixed <;> cases category <;> rfl

/-- Restrictions of sound bounds are readable. -/
theorem readable_restrictions {content : Variable Float} (sound : content.bounds.Sound) :
    ∀ set ∈ restrictions content, set.Readable := by
  obtain ⟨lowerDefined, upperDefined, fixedDefined⟩ := sound.isUndefined
  unfold restrictions
  rw [List.forall_mem_append, List.forall_mem_append, List.forall_mem_append, List.forall_mem_map,
    List.forall_mem_map, List.forall_mem_map]
  refine ⟨fun value member => fixedDefined value (Option.mem_toList.mp member),
    fun value member => lowerDefined value (Option.mem_toList.mp member),
    fun value member => upperDefined value (Option.mem_toList.mp member), ?_⟩
  cases content.category with
  | continuous => exact List.forall_mem_nil _
  | integer => exact List.forall_mem_singleton.mpr trivial
  | binary => exact List.forall_mem_singleton.mpr trivial

/-- What has been read when the lines of the given variables are done, and one
more variable has the given content. -/
def restricting (model : Model Float) (objective : Option (Objective Float))
    (done todo : List (Entry .var (Variable Float))) (entry : Entry .var (Variable Float))
    (content : Variable Float) : Draft where
  vars := ⟨done.map model.placedVariable ++
    { model.placedVariable entry with content := content } :: todo.map model.blankEntry,
    model.vars.entries.length⟩
  constraints := {}
  objective := objective
  labels := model.table

section Variables

variable {model : Model Float} (wellFormed : model.WellFormed)
  {objective : Option (Objective Float)} {done todo : List (Entry .var (Variable Float))}
  {entry : Entry .var (Variable Float)} (parts : model.vars.entries = done ++ entry :: todo)

include wellFormed parts

theorem apart_restricting : ∀ other ∈ done.map model.placedVariable ++ todo.map model.blankEntry,
    other.id ≠ model.vars.place entry.id := by
  have apart := wellFormed.vars.place_ne parts
  rw [List.forall_mem_append] at *
  exact ⟨List.forall_mem_map.mpr apart.1, List.forall_mem_map.mpr apart.2⟩

/-- The content of the variable at hand is replaced. -/
theorem setContent_restricting (objective : Option (Objective Float))
    (before after : Variable Float) :
    (restricting model objective done todo entry before).vars.setContent
        (model.vars.place entry.id) after =
      (restricting model objective done todo entry after).vars :=
  Registry.modify_at (apart_restricting wellFormed parts) fun entry =>
    { entry with content := after }

theorem content?_restricting (objective : Option (Objective Float)) (content : Variable Float) :
    (restricting model objective done todo entry content).vars.content?
      (model.vars.place entry.id) = some content := by
  have apart := apart_restricting wellFormed parts
  rw [List.forall_mem_append] at apart
  exact Registry.content?_at apart.1

/-- Step lemma: a change that replaces the content of the variable at hand. -/
theorem takes_setContent {edit : Edit Float} {before after : Variable Float}
    (changes : ∀ current : Model Float,
      current.vars.content? (model.vars.place entry.id) = some before →
      Change current edit
        ⟨touch { current with vars := current.vars.setContent (model.vars.place entry.id) after },
          none⟩) :
    Takes (do let _ ← Reader.perform edit) (restricting model objective done todo entry before) ()
      (restricting model objective done todo entry after) := by
  have performs : Takes (Reader.perform edit) (restricting model objective done todo entry before)
      none (restricting model objective done todo entry after) := by
    refine takes_perform (fun generation => ⟨generation + 1, ?_⟩) rfl
    have change := changes ((restricting model objective done todo entry before).model generation)
      (content?_restricting wellFormed parts objective before)
    unfold Draft.model at *
    rw [← setContent_restricting wellFormed parts objective before after]
    exact change
  exact takes_performed performs

/-- An accepted update of bounds. -/
theorem takes_updateBounds {edit : Edit Float}
    {update : Bounds Float → Except BoundConflict (Bounds Float)}
    (asked : edit.boundsUpdate? = some (model.vars.place entry.id, update))
    {before after : Bounds Float} (category : Category) (updated : update before = .ok after)
    (sound : after.Sound) :
    Takes (do let _ ← Reader.perform edit)
      (restricting model objective done todo entry ⟨before, category⟩) ()
      (restricting model objective done todo entry ⟨after, category⟩) :=
  takes_setContent wellFormed parts fun _ present =>
    .updateBounds edit _ update asked _ present after updated (checkBounds_eq_ok.mpr sound)

theorem takes_setCategory (bounds : Bounds Float) (before after : Category) :
    Takes (do let _ ← Reader.perform (.setCategory (model.vars.place entry.id) after))
      (restricting model objective done todo entry ⟨bounds, before⟩) ()
      (restricting model objective done todo entry ⟨bounds, after⟩) :=
  takes_setContent wellFormed parts fun _ present => .setCategory _ after _ present

/-- A written restriction is read as one. -/
theorem takesLines_restriction (set : ConstraintSet Float) (readable : set.Readable)
    {before after : Variable Float}
    (takes : Takes (Reader.restrict (model.vars.place entry.id) set)
      (restricting model objective done todo entry before) ()
      (restricting model objective done todo entry after)) :
    TakesLines [relationChars (model.labelChars entry.id) set]
      (restricting model objective done todo entry before)
      (restricting model objective done todo entry after) := by
  have side := side_label wellFormed.vars entry.id
  have written := written_relationChars side readable
  obtain ⟨content, statement, unnamed⟩ := written.unnamed
  have live : entry.id ∈ model.vars.ids := by
    refine Registry.mem_ids ?_
    rw [parts]
    exact List.mem_append_right _ List.mem_cons_self
  refine takesLines_singleton ?_ ?_
  · rw [content]
    exact written.filled
  · rw [content, statement]
    unfold Reader.relate
    rw [unnamed]
    dsimp only
    rw [relation_relationChars side readable]
    refine (takes_part _).bind (takes_get fun _ _ => ?_)
    dsimp only [Draft.reader, restricting]
    rw [lookup_label wellFormed.vars live]
    exact takes

/-- All restrictions of the variable at hand. -/
theorem takesLines_restrictions {content : Variable Float} (sound : content.bounds.Sound) :
    TakesLines ((restrictions content).map (relationChars (model.labelChars entry.id)))
      (restricting model objective done todo entry ⟨.free, .continuous⟩)
      (restricting model objective done todo entry content) := by
  obtain ⟨⟨lower, upper, fixed⟩, category⟩ := content
  obtain ⟨lowerDefined, upperDefined, fixedDefined⟩ := sound.isUndefined
  have fixLine : TakesLines ((fixed.toList.map .equalTo).map
      (relationChars (model.labelChars entry.id)))
      (restricting model objective done todo entry ⟨.free, .continuous⟩)
      (restricting model objective done todo entry ⟨⟨none, none, fixed⟩, .continuous⟩) := by
    cases fixed with
    | none => exact takesLines_nil _
    | some value =>
      exact takesLines_restriction wellFormed parts (.equalTo value) (fixedDefined value rfl)
        (takes_updateBounds wellFormed parts rfl .continuous rfl sound.withoutEnds)
  have lowerLine : TakesLines ((lower.toList.map .greaterThan).map
      (relationChars (model.labelChars entry.id)))
      (restricting model objective done todo entry ⟨⟨none, none, fixed⟩, .continuous⟩)
      (restricting model objective done todo entry ⟨⟨lower, none, fixed⟩, .continuous⟩) := by
    cases lower with
    | none => exact takesLines_nil _
    | some value =>
      have free : fixed = none := sound.fixed_of_lower rfl
      subst free
      exact takesLines_restriction wellFormed parts (.greaterThan value) (lowerDefined value rfl)
        (takes_updateBounds wellFormed parts rfl .continuous rfl sound.withoutUpper)
  have upperLine : TakesLines ((upper.toList.map .lessThan).map
      (relationChars (model.labelChars entry.id)))
      (restricting model objective done todo entry ⟨⟨lower, none, fixed⟩, .continuous⟩)
      (restricting model objective done todo entry ⟨⟨lower, upper, fixed⟩, .continuous⟩) := by
    cases upper with
    | none => exact takesLines_nil _
    | some value =>
      have free : fixed = none := sound.fixed_of_upper rfl
      subst free
      exact takesLines_restriction wellFormed parts (.lessThan value) (upperDefined value rfl)
        (takes_updateBounds wellFormed parts rfl .continuous rfl sound)
  have categoryLine : TakesLines ((categorySets category).map
      (relationChars (model.labelChars entry.id)))
      (restricting model objective done todo entry ⟨⟨lower, upper, fixed⟩, .continuous⟩)
      (restricting model objective done todo entry ⟨⟨lower, upper, fixed⟩, category⟩) := by
    cases category with
    | continuous => exact takesLines_nil _
    | integer =>
      exact takesLines_restriction wellFormed parts .integer trivial
        (takes_setCategory wellFormed parts _ _ _)
    | binary =>
      exact takesLines_restriction wellFormed parts .zeroOne trivial
        (takes_setCategory wellFormed parts _ _ _)
  unfold restrictions
  rw [List.map_append, List.map_append, List.map_append]
  exact fixLine.append (lowerLine.append (upperLine.append categoryLine))

end Variables

/-- What has been read when the lines of the given variables are done. -/
def restricted (model : Model Float) (objective : Option (Objective Float))
    (done todo : List (Entry .var (Variable Float))) : Draft where
  vars := ⟨done.map model.placedVariable ++ todo.map model.blankEntry, model.vars.entries.length⟩
  constraints := {}
  objective := objective
  labels := model.table

/-- Run lemma: the lines of all variables. -/
theorem takesLines_variables {model : Model Float} (wellFormed : model.WellFormed)
    (objective : Option (Objective Float)) : ∀ {todo done : List (Entry .var (Variable Float))},
    model.vars.entries = done ++ todo →
    TakesLines (todo.flatMap model.variableLines) (restricted model objective done todo)
      (restricted model objective model.vars.entries [])
  | [], done, parts => by
    rw [List.append_nil] at parts
    rw [parts]
    exact takesLines_nil _
  | entry :: todo, done, parts => by
    have member : entry ∈ model.vars.entries := by
      rw [parts]
      exact List.mem_append_right _ List.mem_cons_self
    have here : TakesLines (model.variableLines entry)
        (restricted model objective done (entry :: todo))
        (restricted model objective (done ++ [entry]) todo) := by
      have moved : restricting model objective done todo entry entry.content =
          restricted model objective (done ++ [entry]) todo := by
        unfold restricting restricted
        rw [List.map_append, List.append_assoc]
        rfl
      rw [variableLines_eq, ← moved]
      exact takesLines_restrictions wellFormed parts (wellFormed.bounds entry member)
    rw [List.flatMap_cons]
    exact here.append (takesLines_variables wellFormed objective
      (by rw [parts, List.append_assoc, List.singleton_append]))

/-! ## The line of a constraint -/

def constrained (model : Model Float) (done : List (Entry .con (Constraint Float))) : Draft where
  vars := ⟨model.vars.entries.map model.placedVariable, model.vars.entries.length⟩
  constraints := ⟨done.map model.placedConstraint, done.length⟩
  objective := model.objective.map model.placedObjective
  labels := model.table

/-- What has been read in the midst of a line: one more constraint, with the given
name or none. -/
def constraining (model : Model Float) (done : List (Entry .con (Constraint Float)))
    (content : Constraint Float) (name : Option String) : Draft :=
  { constrained model done with
    constraints := Registry.withLast model.placedConstraint done content name }

/-- A constraint whose numbers are finite and whose dimension can be computed with 64 bits. -/
structure Exact (constraint : Constraint Float) : Prop where
  finite : ∀ expr ∈ constraint.function.components, expr.checkFinite = .ok ()
  sized : constraint.set.Sized

/-- The sets of sound constraints are readable. -/
theorem readable_of_validate {set : ConstraintSet Float} (valid : set.validate = .ok ())
    (sized : set.Sized) : set.Readable := by
  have bound : ∀ {value : Float}, ConstraintSet.checkBound value = .ok () →
      value.isNaN = false := by
    intro value checked
    unfold ConstraintSet.checkBound at checked
    by_cases finite : ExtendedNumber.isFinite value = true
    · exact Binary64.isNaN_of_isFinite finite
    · rw [if_neg finite] at checked
      cases checked
  cases set with
  | lessThan value => exact bound valid
  | greaterThan value => exact bound valid
  | equalTo value => exact bound valid
  | interval lower upper =>
    simp only [ConstraintSet.validate] at valid
    split at valid
    · cases valid
    · rename_i consistent
      rw [Bool.or_eq_true, Bool.or_eq_true, not_or, not_or] at consistent
      exact ⟨eq_false_of_ne_true consistent.1.1, eq_false_of_ne_true consistent.1.2⟩
  | integer => trivial
  | zeroOne => trivial
  | cone kind size => exact (kind.le_extent size).trans_lt sized

section Constraints

variable {model : Model Float} (wellFormed : model.WellFormed)

theorem ids_placed (model : Model Float) (next : Nat) :
    Registry.ids ⟨model.vars.entries.map model.placedVariable, next⟩ =
      model.vars.ids.map model.vars.place := by
  unfold Registry.ids
  rw [List.map_map, List.map_map]
  rfl

variable {done todo : List (Entry .con (Constraint Float))} {entry : Entry .con (Constraint Float)}

/-- A written function begins like no label. -/
theorem functionChars_head {function : ConstraintFunction Float}
    (wellFormed : model.vars.WellFormed)
    (good : GoodFunction model function) :
    ∃ first others, model.functionChars function = first :: others ∧ ¬ StartsLabel first := by
  cases function with
  | scalar expr =>
    obtain ⟨stored, finite⟩ := good expr List.mem_cons_self
    obtain ⟨first, others, written, numeral⟩ := (side_exprChars wellFormed stored finite).2
    exact ⟨first, others, written, fun starts => starts.not_numeral numeral⟩
  | vector components => exact ⟨'[', _, rfl, by decide⟩

variable (parts : model.constraints.entries = done ++ entry :: todo) (numbers : Exact entry.content)
include wellFormed parts

theorem stored_constraint : entry.content.Stored model.vars.ids := by
  refine wellFormed.functions entry ?_
  rw [parts]
  exact List.mem_append_right _ List.mem_cons_self

include numbers

theorem goodFunction_constraint : GoodFunction model entry.content.function := fun expr member =>
  ⟨(stored_constraint wellFormed parts).components expr member, numbers.finite expr member⟩

/-- The constraint that is read passes the checks. -/
theorem validate_placed : (model.placedConstraint entry).content.validate = .ok () := by
  have stored := stored_constraint wellFormed parts
  have valid := stored.validate_eq_ok.mpr numbers.finite
  exact Constraint.validate_map valid (fun _ => checkFinite_reread _) (degree_reread_le _)

omit numbers in
/-- The constraint that is read is in canonical form already. -/
theorem normalized_placed :
    (model.placedConstraint entry).content.normalized = (model.placedConstraint entry).content := by
  have stored := stored_constraint wellFormed parts
  have each : ∀ expr ∈ entry.content.function.components,
      (reread model.vars.place expr).normalized = reread model.vars.place expr :=
    fun expr member => normalized_reread wellFormed.vars (stored.components expr member)
  unfold Constraint.normalized placedConstraint
  cases form : entry.content.function with
  | scalar expr =>
    rw [form] at each
    dsimp only [ConstraintFunction.map]
    rw [each expr List.mem_cons_self]
  | vector components =>
    rw [form] at each
    dsimp only [ConstraintFunction.map]
    rw [List.map_map]
    congr 2
    exact List.map_congr_left each

theorem takes_addPlaced :
    Takes (Reader.perform (.addConstraint (model.placedConstraint entry).content))
      (constrained model done) (some (.con ⟨done.length⟩))
      (constraining model done (model.placedConstraint entry).content none) := by
  have stored := stored_constraint wellFormed parts
  refine takes_perform (fun generation => ⟨generation + 1, ?_⟩) rfl
  have live : ∀ id ∈ (model.placedConstraint entry).content.function.vars,
      ((constrained model done).model generation).vars.contains id = true := by
    intro id member
    obtain ⟨expr, exprMember, mentioned⟩ := ConstraintFunction.mem_vars.mp member
    change expr ∈ (entry.content.function.map _).components at exprMember
    rw [ConstraintFunction.components_map, List.mem_map] at exprMember
    obtain ⟨old, oldMember, rfl⟩ := exprMember
    exact live_placed wellFormed (ids_placed model _) generation
      (stored.components old oldMember) id mentioned
  have change := Change.addConstraint (model.placedConstraint entry).content
    (validate_placed wellFormed parts numbers) live
  rw [normalized_placed wellFormed parts] at change
  exact change

omit numbers in
theorem takes_nameConstraint {content : Constraint Float} {name : String}
    (named : entry.name = some name) :
    Takes (Reader.perform (.setName (.con ⟨done.length⟩) name))
      (constraining model done content none) none
      (constraining model done content (some name)) := by
  have member : entry ∈ model.constraints.entries := by
    rw [parts]
    exact List.mem_append_right _ List.mem_cons_self
  have valid := wellFormed.constraints.validNames entry member name named
  have unheld := Registry.holder?_withLast model.placedConstraint wellFormed.constraints parts
    (fun _ => rfl) content named
  have renamed := Registry.setName_withLast model.placedConstraint (fun _ => rfl)
    wellFormed.constraints parts content (some name)
  exact takes_setName (.con ⟨done.length⟩) valid
    (fun generation => ⟨Registry.contains_at, Option.map_eq_none_iff.mpr unheld⟩)
    (fun generation => by
      unfold putName Draft.model constraining
      rw [← renamed]
      rfl) rfl

omit numbers in
theorem constraining_named :
    constraining model done (model.placedConstraint entry).content entry.name =
      constrained model (done ++ [entry]) := by
  unfold constraining constrained Registry.withLast
  rw [List.map_append, List.length_append, List.map_singleton]
  unfold placedConstraint
  rw [wellFormed.constraints.place_eq parts]
  rfl

include numbers

/-- Step lemma: reading a function and a set adds the constraint, with its name if
it has one. -/
theorem takes_addConstraint :
    Takes (Reader.addConstraint (entry.name.map String.toList)
        (model.functionChars entry.content.function) entry.content.set)
      (constrained model done) () (constrained model (done ++ [entry])) := by
  have stored := stored_constraint wellFormed parts
  have read := function_functionChars wellFormed.vars
    (goodFunction_constraint wellFormed parts numbers)
    (Constraint.components_ne_nil stored.set stored.shape)
  have built : Constraint.build (entry.content.function.map (reread model.vars.place))
      entry.content.set = .ok (model.placedConstraint entry).content := by
    unfold Constraint.build
    have valid := validate_placed wellFormed parts numbers
    unfold placedConstraint at valid
    rw [valid]
    rfl
  rw [← constraining_named wellFormed parts]
  unfold Reader.addConstraint
  refine takes_get fun _ _ => ?_
  show Takes (Reader.part (Reader.function model.table _) >>= _) _ _ _
  rw [read]
  refine (takes_part _).bind ?_
  rw [built]
  refine (takes_part _).bind (takes_get fun _ _ =>
    (takes_addPlaced wellFormed parts numbers).bind ?_)
  cases named : entry.name with
  | none => exact takes_pure ()
  | some name =>
    dsimp only [Option.map]
    rw [String.ofList_toList]
    exact takes_performed (takes_nameConstraint wellFormed parts named)

/-- Step lemma: the line of a constraint. -/
theorem takesLines_constraint :
    TakesLines [model.constraintLine entry] (constrained model done)
      (constrained model (done ++ [entry])) := by
  have member : entry ∈ model.constraints.entries := by
    rw [parts]
    exact List.mem_append_right _ List.mem_cons_self
  have stored := stored_constraint wellFormed parts
  have good := goodFunction_constraint wellFormed parts numbers
  have readable := readable_of_validate stored.set numbers.sized
  have side := side_functionChars wellFormed.vars good
    (Constraint.components_ne_nil stored.set stored.shape)
  have written := written_relationChars side readable
  have relation := relation_relationChars side readable
  have added := takes_addConstraint wellFormed parts numbers
  unfold constraintLine
  rw [constraintChars_eq model stored.shape]
  cases named : entry.name with
  | none =>
    rw [named] at added
    obtain ⟨first, others, spelled, foreign⟩ := functionChars_head wellFormed.vars good
    have unknown :
        Reader.lookup model.table (model.functionChars entry.content.function) = none := by
      rw [spelled]
      exact lookup_foreign wellFormed.vars others foreign
    obtain ⟨content, statement, unnamed⟩ := written.unnamed
    dsimp only [List.nil_append]
    refine takesLines_singleton ?_ ?_
    · rw [content]
      exact written.filled
    · rw [content, statement]
      unfold Reader.relate
      rw [unnamed]
      dsimp only
      rw [relation]
      refine (takes_part _).bind (takes_get fun _ _ => ?_)
      dsimp only [Draft.reader, constrained]
      rw [unknown]
      exact added
  | some name =>
    rw [named] at added
    obtain ⟨content, statement, split⟩ :=
      written.named (wellFormed.constraints.validNames entry member name named)
    dsimp only
    rw [List.append_assoc, List.cons_append, List.singleton_append]
    refine takesLines_singleton ?_ ?_
    · rw [content]
      exact List.append_ne_nil_of_right_ne_nil _ (List.cons_ne_nil _ _)
    · rw [content, statement]
      unfold Reader.relate
      rw [split]
      dsimp only
      rw [relation]
      exact (takes_part _).bind (takes_get fun _ _ => added)

end Constraints

/-- Run lemma: the lines of all constraints. -/
theorem takesLines_constraints {model : Model Float} (wellFormed : model.WellFormed)
    (numbers : ∀ entry ∈ model.constraints.entries, Exact entry.content) :
    ∀ {todo done : List (Entry .con (Constraint Float))}, model.constraints.entries = done ++ todo →
      TakesLines (todo.map model.constraintLine) (constrained model done)
        (constrained model model.constraints.entries)
  | [], done, parts => by
    rw [List.append_nil] at parts
    rw [parts]
    exact takesLines_nil _
  | entry :: todo, done, parts => by
    have member : entry ∈ model.constraints.entries := by
      rw [parts]
      exact List.mem_append_right _ List.mem_cons_self
    exact (takesLines_constraint wellFormed parts (numbers entry member)).append
      (takesLines_constraints wellFormed numbers
        (by rw [parts, List.append_assoc, List.singleton_append]))

/-! ## The whole text -/

/-- A model whose numbers are finite and whose dimensions can be computed with 64 bits. -/
structure Writable (model : Model Float) : Prop where
  objective : ∀ objective ∈ model.objective, objective.expr.checkFinite = .ok ()
  constraints : ∀ entry ∈ model.constraints.entries, Exact entry.content

instance (constraint : Constraint Float) : Decidable (Exact constraint) :=
  decidable_of_iff ((∀ expr ∈ constraint.function.components, expr.checkFinite = .ok ()) ∧
    constraint.set.Sized) ⟨fun ⟨finite, sized⟩ => ⟨finite, sized⟩, fun exact => ⟨exact.1, exact.2⟩⟩

instance (model : Model Float) : Decidable model.Writable :=
  decidable_of_iff ((∀ objective ∈ model.objective, objective.expr.checkFinite = .ok ()) ∧
      ∀ entry ∈ model.constraints.entries, Exact entry.content)
    ⟨fun ⟨objective, constraints⟩ => ⟨objective, constraints⟩,
      fun writable => ⟨writable.1, writable.2⟩⟩

/-- The model that is read from the text of a model, without its generation. -/
def reconstructed (model : Model Float) (generation : Nat) : Model Float :=
  (constrained model model.constraints.entries).model generation

section Text

variable {model : Model Float} (wellFormed : model.WellFormed) (writable : model.Writable)
include wellFormed writable

/-- Reading the lines of a model reconstructs it. -/
theorem takesLines_lines :
    TakesLines model.lines (declared model []) (constrained model model.constraints.entries) := by
  have ids : (declared model model.vars.entries).vars.ids =
      model.vars.ids.map model.vars.place := by
    show (model.vars.entries.map model.blankEntry).map Entry.id = _
    unfold Registry.ids
    rw [List.map_map, List.map_map]
    rfl
  have labels : (declared model model.vars.entries).labels = model.table := by
    unfold table Registry.ids
    rw [List.map_map]
    rfl
  have started : { declared model model.vars.entries with
      objective := model.objective.map model.placedObjective } =
        restricted model (model.objective.map model.placedObjective) [] model.vars.entries := by
    unfold restricted
    rw [← labels]
    rfl
  have finished : restricted model (model.objective.map model.placedObjective) model.vars.entries
      [] = constrained model [] := by
    unfold restricted constrained
    rw [List.map_nil, List.append_nil]
    rfl
  have objective := takesLines_objective wellFormed labels ids rfl writable.objective
  have restrictions : TakesLines (model.vars.entries.flatMap model.variableLines)
      (restricted model (model.objective.map model.placedObjective) [] model.vars.entries)
      (restricted model (model.objective.map model.placedObjective) model.vars.entries []) :=
    takesLines_variables wellFormed _ rfl
  have constraints : TakesLines (model.constraints.entries.map model.constraintLine)
      (constrained model []) (constrained model model.constraints.entries) :=
    takesLines_constraints wellFormed writable.constraints rfl
  rw [started] at objective
  rw [finished] at restrictions
  exact (takesLines_declaration wellFormed).append
    ((objective.append restrictions).append constraints)

/-- No line of a model contains a line break. -/
theorem no_break_lines : ∀ line ∈ model.lines, '\n' ∉ line := by
  have exprs : ∀ {expr : Expr Float}, expr.Stored model.vars.ids → expr.checkFinite = .ok () →
      '\n' ∉ model.exprChars expr := fun stored finite =>
    Text.not_mem_of_class (side_exprChars wellFormed.vars stored finite).1.chars rfl
  unfold lines
  rw [List.forall_mem_cons, List.forall_mem_append, List.forall_mem_append]
  refine ⟨?_, ⟨?_, ?_⟩, ?_⟩
  · refine List.not_mem_append (by decide) (Text.not_mem_of_class (isLineChar_join ?_) rfl)
    rw [List.forall_mem_map]
    exact fun id _ => isLineChar_labelChars wellFormed id
  · cases present : model.objective with
    | none =>
      unfold objectiveLines
      rw [present]
      exact List.forall_mem_nil _
    | some objective =>
      have keyword : '\n' ∉ (objectiveKeyword objective.sense).toList := by
        cases objective.sense <;> decide
      rw [objectiveLines_eq present, List.forall_mem_singleton]
      exact List.not_mem_append keyword (List.not_mem_cons_of_ne_of_not_mem (by decide)
        (exprs (wellFormed.objective objective present) (writable.objective objective present)))
  · intro line member
    obtain ⟨entry, entryMember, inside⟩ := List.mem_flatMap.mp member
    rw [variableLines_eq] at inside
    obtain ⟨set, setMember, rfl⟩ := List.mem_map.mp inside
    refine (written_relationChars (side_label wellFormed.vars entry.id)
      (readable_restrictions (wellFormed.bounds entry entryMember) set setMember)).no_break
  · rw [List.forall_mem_map]
    intro entry member
    have stored := wellFormed.functions entry member
    have numbers := writable.constraints entry member
    have good : GoodFunction model entry.content.function := fun expr inside =>
      ⟨stored.components expr inside, numbers.finite expr inside⟩
    have side := side_functionChars wellFormed.vars good
      (Constraint.components_ne_nil stored.set stored.shape)
    have written := written_relationChars side (readable_of_validate stored.set numbers.sized)
    unfold constraintLine
    rw [constraintChars_eq model stored.shape]
    refine List.not_mem_append ?_ written.no_break
    cases named : entry.name with
    | none => exact List.not_mem_nil
    | some name =>
      obtain ⟨_, _, _, _, _, letters⟩ :=
        valid_name (wellFormed.constraints.validNames entry member name named)
      exact List.not_mem_append (Text.not_mem_of_class letters rfl) (by decide)

/-- The text of a model is read without a refusal, and reconstructs the model. -/
theorem ofText_toText :
    ∃ generation, ofText model.toText = .ok (model.reconstructed generation) := by
  have text : model.toText.toList.splitOn '\n' = model.lines ++ [[]] := by
    unfold toText
    rw [String.toList_ofList, Text.splitOn_ended (no_break_lines wellFormed writable)]
  have rest : TakesLines [[]] (constrained model model.constraints.entries)
      (constrained model model.constraints.entries) := takesLines_blank _ rfl
  obtain ⟨generation, events, done⟩ := ((takesLines_lines wellFormed writable).append rest) 1 0 []
  rw [← text] at done
  exact ⟨generation, ofText_of_readLines done⟩

end Text

end Model

end ConicModel
