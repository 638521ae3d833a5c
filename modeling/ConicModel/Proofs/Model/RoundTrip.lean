import ConicModel.Proofs.Model.Reconstruction

/-!
Contract: the text of a model says all there is to say about it.

Owns:
- the agreement of a model with the one that is read from its text;
- the round trip of every model that can be reached.

Does not own: metadata, which the text leaves out.
-/

namespace ConicModel

/-! ## Agreement of what is read with what was written -/

theorem Terms.agrees_refl {Key : Type} {terms : Terms Key Float}
    (finite : ∀ term ∈ terms, term.2.isFinite = true) : Agrees terms terms :=
  List.forall₂_same.mpr fun term member =>
    ⟨rfl, Binary64.beq_self _ (Binary64.isNaN_of_isFinite (finite term member))⟩

/-- Zero plus a number passes the equality test with the number. -/
theorem beq_zero_add {value : Float} (finite : value.isFinite = true) :
    (value == 0 + value) = true := by
  cases zero : value == 0 with
  | true =>
    rw [Binary64.zero_add_of_beq _ zero]
    exact zero
  | false =>
    rw [Binary64.zero_add_float _ zero]
    exact Binary64.beq_self _ (Binary64.isNaN_of_isFinite finite)

namespace Model

theorem agrees_reread (place : VariableId → VariableId) {expr : Expr Float}
    (finite : expr.checkFinite = .ok ()) : (expr.rename place).Agrees (reread place expr) := by
  obtain ⟨constant, linear, quadratic⟩ := Expr.checkFinite_eq_ok.mp finite
  exact ⟨beq_zero_add constant, Terms.agrees_refl (List.forall_mem_map.mpr linear),
    Terms.agrees_refl (List.forall_mem_map.mpr quadratic)⟩

theorem agrees_map_reread (place : VariableId → VariableId) {function : ConstraintFunction Float}
    (finite : ∀ expr ∈ function.components, expr.checkFinite = .ok ()) :
    (function.map (Expr.rename place)).Agrees (function.map (reread place)) := by
  cases function with
  | scalar expr => exact .scalar (agrees_reread place (finite expr List.mem_cons_self))
  | vector components =>
    refine .vector ?_
    rw [List.forall₂_map_left_iff, List.forall₂_map_right_iff]
    exact List.forall₂_same.mpr fun expr member => agrees_reread place (finite expr member)

/-- Sound bounds pass the equality test with themselves. -/
theorem beq_variable {content : Variable Float} (sound : content.bounds.Sound) :
    (content == content) = true := by
  obtain ⟨lower, upper, fixed⟩ := sound.isUndefined
  have present : ∀ {number : Option Float},
      (∀ value, number = some value → ExtendedNumber.isUndefined value = false) →
      (number == number) = true := by
    intro number defined
    cases number with
    | none => rfl
    | some value => exact Binary64.beq_self value (defined value rfl)
  have category : (content.category == content.category) = true := beq_self_eq_true _
  show (((content.bounds.lower == content.bounds.lower) &&
    ((content.bounds.upper == content.bounds.upper) &&
      (content.bounds.fixed == content.bounds.fixed))) &&
        (content.category == content.category)) = true
  rw [present lower, present upper, present fixed, category]
  rfl

/-- A readable set passes the equality test with itself. -/
theorem beq_set {set : ConstraintSet Float} (readable : set.Readable) : (set == set) = true := by
  cases set with
  | lessThan bound => exact Binary64.beq_self bound readable
  | greaterThan bound => exact Binary64.beq_self bound readable
  | equalTo value => exact Binary64.beq_self value readable
  | interval lower upper =>
    show ((lower == lower) && (upper == upper)) = true
    rw [Binary64.beq_self lower readable.1, Binary64.beq_self upper readable.2]
    rfl
  | integer => rfl
  | zeroOne => rfl
  | cone kind size =>
    show ((kind == kind) && (size == size)) = true
    rw [beq_self_eq_true, beq_self_eq_true]
    rfl

/-- The reconstruction of a model is the model with its entities renumbered. -/
theorem renumbers_reconstructed {model : Model Float} (wellFormed : model.WellFormed)
    (writable : model.Writable) (generation : Nat) :
    model.Renumbers (model.reconstructed generation) where
  varIds := (ids_placed model _).trans wellFormed.vars.map_place
  vars := by
    show List.Forall₂ _ _ (model.vars.entries.map model.placedVariable)
    rw [List.forall₂_map_right_iff]
    exact List.forall₂_same.mpr fun entry member =>
      ⟨rfl, rfl, beq_variable (wellFormed.bounds entry member)⟩
  objective := by
    show Option.Rel _ _ (model.objective.map model.placedObjective)
    cases present : model.objective with
    | none => exact .none
    | some objective =>
      exact .some ⟨rfl, agrees_reread _ (writable.objective objective present)⟩
  conIds := by
    refine Eq.trans ?_ wellFormed.constraints.map_place
    show (model.constraints.entries.map model.placedConstraint).map Entry.id = _
    unfold Registry.ids
    rw [List.map_map, List.map_map]
    rfl
  constraints := by
    show List.Forall₂ _ _ (model.constraints.entries.map model.placedConstraint)
    rw [List.forall₂_map_right_iff]
    refine List.forall₂_same.mpr fun entry member => ⟨rfl, rfl, ?_, ?_⟩
    · exact beq_set (readable_of_validate (wellFormed.functions entry member).set
        (writable.constraints entry member).sized)
    · exact agrees_map_reread _ (writable.constraints entry member).finite

/-- The text of a model that can be reached is read without a refusal, and what is
read is the model with its live variables and constraints renumbered by their
order. -/
theorem read_toText_of_reachable {model : Model Float} (reached : model.Reachable)
    (writable : model.Writable) :
    ∃ parsed, ofText model.toText = .ok parsed ∧ model.Renumbers parsed := by
  obtain ⟨generation, read⟩ := ofText_toText reached.wellFormed writable
  exact ⟨model.reconstructed generation, read,
    renumbers_reconstructed reached.wellFormed writable generation⟩

/-! ## A model with gaps -/

/-- Changes after which ids are missing, one name was refused, some entities have no
name, a negative zero is stored, and a component and a pair have lost a variable. -/
def gapEdits : List (Edit Float) :=
  [.addVariable ⟨some 0, some 4, none⟩ .integer,
    .addVariable .free .continuous,
    .addVariable (.fixedAt (-2)) .continuous,
    .setName (.var ⟨0⟩) "x",
    .setName (.var ⟨2⟩) "x",
    .setName (.var ⟨1⟩) "gone",
    .addConstraint ⟨.scalar ⟨-1, [(⟨2⟩, 2), (⟨0⟩, -3)], [((⟨2⟩, ⟨0⟩), 1), ((⟨1⟩, ⟨0⟩), 6)]⟩,
      .lessThan 5⟩,
    .addConstraint ⟨.scalar (.const 0), .equalTo 0⟩,
    .addConstraint ⟨.vector [⟨-0, [(⟨1⟩, 1)], []⟩, ⟨0, [(⟨2⟩, 1)], []⟩], .cone .secondOrder 2⟩,
    .setName (.con ⟨2⟩) "ball",
    .setObjective .maximize ⟨0, [(⟨1⟩, 7), (⟨0⟩, -1)], []⟩,
    .remove (.con ⟨1⟩),
    .remove (.var ⟨1⟩)]

theorem read_toText_gapEdits :
    ((gapEdits.foldl attempt empty).Reachable ∧ (gapEdits.foldl attempt empty).Writable) ∧
      ∃ parsed, ofText (gapEdits.foldl attempt empty).toText = .ok parsed ∧
        (gapEdits.foldl attempt empty).Renumbers parsed :=
  have reached := Reachable.empty.foldl_attempt gapEdits
  have writable : (gapEdits.foldl attempt empty).Writable := by decide +kernel
  ⟨⟨reached, writable⟩, read_toText_of_reachable reached writable⟩

end Model

end ConicModel
