import ConicModel.Proofs.Float.Arithmetic
import ConicModel.Proofs.Model.Reachable

/-!
Contract: what a caller may rely on in every model that can come about.

Owns:
- ordered bounds, constraints that fit their set, and consistent models, all of them in
  terms of what look-ups give and of what is stored;
- the fact that every reachable model is consistent.

Does not own: the invariant that changes keep, which is `Model.WellFormed`.
-/

namespace ConicModel

/-! ## Bounds -/

/-- Bounds that describe one number, or an interval that is not empty. -/
structure Bounds.Ordered (bounds : Bounds Float) : Prop where
  lowerDefined : ∀ value, bounds.lower = some value → value.isNaN = false
  upperDefined : ∀ value, bounds.upper = some value → value.isNaN = false
  fixedDefined : ∀ value, bounds.fixed = some value → value.isNaN = false
  fixedAlone : ∀ value, bounds.fixed = some value → bounds.lower = none ∧ bounds.upper = none
  inOrder : ∀ lower upper, bounds.lower = some lower → bounds.upper = some upper → lower ≤ upper

theorem Bounds.Sound.ordered {bounds : Bounds Float} (sound : bounds.Sound) : bounds.Ordered := by
  obtain ⟨lowerDefined, upperDefined, fixedDefined⟩ := sound.isUndefined
  refine ⟨lowerDefined, upperDefined, fixedDefined, ?_, ?_⟩
  · intro value fixed
    constructor
    · by_contra present
      obtain ⟨lower, isLower⟩ := Option.ne_none_iff_exists'.mp present
      simp [sound.fixed_of_lower isLower] at fixed
    · by_contra present
      obtain ⟨upper, isUpper⟩ := Option.ne_none_iff_exists'.mp present
      simp [sound.fixed_of_upper isUpper] at fixed
  · intro lower upper isLower isUpper
    have uncrossed := sound.uncrossed
    unfold isCrossed at uncrossed
    rw [isLower, isUpper] at uncrossed
    exact Binary64.le_of_not_lt (lowerDefined lower isLower) (upperDefined upper isUpper)
      (of_decide_eq_false uncrossed)

/-! ## Constraints -/

/-- The function has the form, the number of components and the degrees that the set asks
for. -/
structure Constraint.Fits {K : Type} (constraint : Constraint K) : Prop where
  scalar : constraint.set.isScalar = true → ∃ expr, constraint.function = .scalar expr
  vector : constraint.set.isScalar = false → ∃ components, constraint.function = .vector components ∧
    components.length = constraint.set.dimension
  degrees : ∀ expr ∈ constraint.function.components, expr.degree ≤ constraint.set.maxDegree

theorem Constraint.Stored.fits {K : Type} [ExtendedNumber K] [Zero K] [BEq K]
    {live : List VariableId} {constraint : Constraint K} (stored : constraint.Stored live) :
    constraint.Fits := by
  obtain ⟨function, set⟩ := constraint
  have shape := stored.shape
  refine ⟨?_, ?_, ConstraintFunction.degree_le_iff.mp stored.degree⟩
  · rintro (scalar : set.isScalar = true)
    cases function with
    | scalar expr => exact ⟨expr, rfl⟩
    | vector components => simp [checkShape, scalar] at shape
  · rintro (vector : set.isScalar = false)
    cases function with
    | scalar expr => simp [checkShape, vector] at shape
    | vector components =>
      refine ⟨components, rfl, ?_⟩
      by_contra mismatch
      simp [checkShape, vector, mismatch] at shape

/-! ## Models -/

namespace Model

/-- A model without dangling references: ids are below their counter, expressions are
canonical and mention live variables only, functions fit their sets, bounds are ordered, and
names and metadata belong to live entities. -/
structure Consistent (model : Model Float) : Prop where
  variableIds : ∀ id ∈ model.vars.ids, id.number < model.vars.next
  constraintIds : ∀ id ∈ model.constraints.ids, id.number < model.constraints.next
  bounds : model.vars.All fun content => content.bounds.Ordered
  fits : model.constraints.All Constraint.Fits
  components : model.constraints.All fun constraint =>
    ∀ expr ∈ constraint.function.components, expr.Stored model.vars.ids
  objective : ∀ objective, model.objective = some objective →
    objective.expr.Stored model.vars.ids
  named : ∀ entity name, model.name? entity = some name →
    model.contains entity = true ∧ isValidName name = true
  held : ∀ kind name entity, model.holder? kind name = some entity →
    entity.kind = kind ∧ model.name? entity = some name
  annotated : ∀ entity metadata, model.metadata? entity = some metadata →
    model.contains entity = true

/-- Names are held by entities of their kind. -/
theorem kind_of_holder? {K : Type} {model : Model K} {kind : EntityKind} {name : String}
    {entity : EntityRef} (held : model.holder? kind name = some entity) : entity.kind = kind := by
  cases kind with
  | var =>
    obtain ⟨id, _, rfl⟩ := Option.map_eq_some_iff.mp held
    rfl
  | con =>
    obtain ⟨id, _, rfl⟩ := Option.map_eq_some_iff.mp held
    rfl

theorem WellFormed.consistent {model : Model Float} (wellFormed : model.WellFormed) :
    model.Consistent where
  variableIds := by
    intro id member
    obtain ⟨entry, present, rfl⟩ := List.mem_map.mp member
    exact wellFormed.vars.below entry present
  constraintIds := by
    intro id member
    obtain ⟨entry, present, rfl⟩ := List.mem_map.mp member
    exact wellFormed.constraints.below entry present
  bounds := wellFormed.bounds.imp fun _ sound => sound.ordered
  fits := wellFormed.functions.imp fun _ stored => stored.fits
  components := wellFormed.functions.imp fun _ stored => stored.components
  objective := wellFormed.objective
  named := by
    intro entity name named
    refine ⟨?_, wellFormed.isValidName_of_name? named⟩
    cases entity with
    | var id => exact Registry.contains_iff.mpr (Registry.mem_ids_of_bind named)
    | con id => exact Registry.contains_iff.mpr (Registry.mem_ids_of_bind named)
  held := by
    intro kind name entity held
    obtain rfl := kind_of_holder? held
    exact ⟨rfl, wellFormed.holder?_eq_some.mp held⟩
  annotated := by
    intro entity metadata annotated
    cases entity with
    | var id => exact Registry.contains_iff.mpr (Registry.mem_ids_of_bind annotated)
    | con id => exact Registry.contains_iff.mpr (Registry.mem_ids_of_bind annotated)

/-- Whatever is read, and whatever changes are asked for, the model is consistent. -/
theorem consistent_of_reachable {model : Model Float} (reached : model.Reachable) :
    model.Consistent :=
  reached.wellFormed.consistent

/-- Changes of bounds, two of them refused, and the removal of a variable that a cone, an
objective and a name mention. -/
def revisionEdits : List (Edit Float) :=
  [.addVariable ⟨some 1, none, none⟩ .continuous,
    .addVariable .free .integer,
    .setName (.var ⟨1⟩) "y",
    .setUpperBound ⟨0⟩ 0,
    .setUpperBound ⟨0⟩ 3,
    .fix ⟨0⟩ 2 false,
    .fix ⟨1⟩ 2 true,
    .setMetadata (.var ⟨1⟩) (.bool true),
    .addConstraint ⟨.vector [⟨1, [(⟨1⟩, 2), (⟨0⟩, 1), (⟨1⟩, -2)], []⟩, ⟨0, [(⟨1⟩, 4)], []⟩],
      .cone .secondOrder 2⟩,
    .setObjective .minimize ⟨0, [], [((⟨1⟩, ⟨0⟩), 1), ((⟨0⟩, ⟨0⟩), 5)]⟩,
    .remove (.var ⟨1⟩)]

theorem consistent_revisionEdits :
    ((revisionEdits.foldl attempt empty).Reachable ∧
      (revisionEdits.foldl attempt empty).vars.ids = [⟨0⟩] ∧
      (revisionEdits.foldl attempt empty).storedKinds =
        [⟨.vectorAffine, "SecondOrderCone"⟩]) ∧
      (revisionEdits.foldl attempt empty).Consistent :=
  have reached := Reachable.empty.foldl_attempt revisionEdits
  ⟨⟨reached, by decide +kernel, by decide +kernel⟩, consistent_of_reachable reached⟩

end Model

end ConicModel
