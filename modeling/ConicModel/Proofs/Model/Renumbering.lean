import ConicModel.Proofs.Model.WellFormed

/-!
Contract: the numbering of live entities by their order.

Owns:
- the place of a live id, counted from zero;
- expressions with every variable renamed, and what renaming keeps when it
  keeps the order of variables;
- when one model is another one up to these numberings.

Does not own: how a renumbered model comes about.
-/

namespace ConicModel

/-! ## Places -/

namespace Registry

variable {kind : EntityKind} {Content : Type} {registry : Registry kind Content}

/-- The id whose number is the place of a live id among all live ids. -/
def place (registry : Registry kind Content) (id : EntityId kind) : EntityId kind :=
  ⟨registry.ids.idxOf id⟩

/-- The place of an entry is the number of entries before it. -/
theorem WellFormed.place_eq (wellFormed : registry.WellFormed)
    {earlier later : List (Entry kind Content)} {entry : Entry kind Content}
    (parts : registry.entries = earlier ++ entry :: later) :
    registry.place entry.id = ⟨earlier.length⟩ := by
  have distinct := wellFormed.ids_nodup
  unfold place ids at *
  rw [parts, List.map_append, List.map_cons] at *
  have absent : entry.id ∉ earlier.map Entry.id := fun member =>
    (List.nodup_append.mp distinct).2.2 entry.id member entry.id List.mem_cons_self rfl
  rw [List.idxOf_append_of_notMem absent, List.idxOf_cons_self, List.length_map, Nat.add_zero]

/-- The live ids have the places zero, one, two and so on. -/
theorem WellFormed.map_place (wellFormed : registry.WellFormed) :
    registry.ids.map registry.place = (List.range registry.size).map EntityId.mk := by
  refine List.ext_getElem ?_ fun index left right => ?_
  · unfold ids size
    rw [List.length_map, List.length_map, List.length_map, List.length_range]
  · rw [List.getElem_map, List.getElem_map, List.getElem_range]
    exact congrArg EntityId.mk (wellFormed.ids_nodup.idxOf_getElem _ _)

/-- Places are in the order of ids. -/
theorem WellFormed.place_lt (wellFormed : registry.WellFormed) {left right : EntityId kind}
    (leftLive : left ∈ registry.ids) (rightLive : right ∈ registry.ids)
    (below : left.number < right.number) :
    (registry.place left).number < (registry.place right).number := by
  have increasing := wellFormed.ids_increasing
  have leftBound := List.idxOf_lt_length_of_mem leftLive
  have rightBound := List.idxOf_lt_length_of_mem rightLive
  show registry.ids.idxOf left < registry.ids.idxOf right
  by_contra notBelow
  rcases Nat.lt_or_eq_of_le (Nat.le_of_not_lt notBelow) with above | same
  · have reversed := List.pairwise_iff_getElem.mp increasing _ _ rightBound leftBound above
    rw [List.getElem_idxOf, List.getElem_idxOf] at reversed
    omega
  · have equal : left = right := by
      rw [← List.getElem_idxOf leftBound, ← List.getElem_idxOf rightBound]
      congr 1
      exact same.symm
    rw [equal] at below
    exact Nat.lt_irrefl _ below

end Registry

/-! ## Renaming -/

namespace Expr

variable {K : Type}

def rename (place : VariableId → VariableId) (expr : Expr K) : Expr K :=
  ⟨expr.constant, expr.linear.map fun term => (place term.1, term.2),
    expr.quadratic.map fun term => ((place term.1.1, place term.1.2), term.2)⟩

theorem mem_vars_rename {place : VariableId → VariableId} {expr : Expr K} {id : VariableId} :
    id ∈ (expr.rename place).vars ↔ ∃ old ∈ expr.vars, id = place old := by
  have vars : (expr.rename place).vars = expr.vars.map place := by
    simp only [Expr.vars, rename, List.map_append, List.map_map, List.flatMap_map, List.map_flatMap]
    rfl
  rw [vars, List.mem_map]
  simp only [eq_comm]

theorem degree_rename_le (place : VariableId → VariableId) (expr : Expr K) :
    (expr.rename place).degree ≤ expr.degree := by
  refine degree_le_of_terms (fun empty => ?_) fun empty => ?_
  · unfold rename
    rw [empty]
    rfl
  · unfold rename
    rw [empty]
    rfl

variable [Zero K] [BEq K]

/-- A renaming that keeps the order of the variables keeps the canonical form. -/
theorem Canonical.rename {expr : Expr K} (canonical : expr.Canonical)
    {place : VariableId → VariableId}
    (increasing : ∀ left ∈ expr.vars, ∀ right ∈ expr.vars, left.number < right.number →
      (place left).number < (place right).number) : (expr.rename place).Canonical := by
  have linearVar : ∀ term ∈ expr.linear, term.1 ∈ expr.vars := fun term member =>
    mem_vars.mpr (.inl ⟨term, member, rfl⟩)
  have leftVar : ∀ term ∈ expr.quadratic, term.1.1 ∈ expr.vars := fun term member =>
    mem_vars.mpr (.inr ⟨term, member, .inl rfl⟩)
  have rightVar : ∀ term ∈ expr.quadratic, term.1.2 ∈ expr.vars := fun term member =>
    mem_vars.mpr (.inr ⟨term, member, .inr rfl⟩)
  have same : ∀ {left right : VariableId}, left.number = right.number →
      (place left).number = (place right).number := by
    rintro ⟨left⟩ ⟨right⟩ rfl
    rfl
  refine ⟨⟨?_, ?_⟩, ⟨?_, ?_⟩, ?_⟩
  · refine List.pairwise_map.mpr (canonical.linear.increasing.imp_of_mem ?_)
    intro left right leftMember rightMember below
    simp only [VariableId.before, decide_eq_true_eq] at below ⊢
    exact increasing _ (linearVar left leftMember) _ (linearVar right rightMember) below
  · exact List.forall_mem_map.mpr canonical.linear.nonzero
  · refine List.pairwise_map.mpr (canonical.quadratic.increasing.imp_of_mem ?_)
    intro left right leftMember rightMember below
    rw [VariablePair.before_iff] at below ⊢
    rcases below with first | ⟨first, second⟩
    · exact .inl (increasing _ (leftVar left leftMember) _ (leftVar right rightMember) first)
    · exact .inr ⟨same first,
        increasing _ (rightVar left leftMember) _ (rightVar right rightMember) second⟩
  · exact List.forall_mem_map.mpr canonical.quadratic.nonzero
  · refine List.forall_mem_map.mpr fun term member => ?_
    rcases Nat.lt_or_eq_of_le (canonical.inOrder term member) with below | equal
    · exact Nat.le_of_lt (increasing _ (leftVar term member) _ (rightVar term member) below)
    · exact Nat.le_of_eq (same equal)

/-- A stored expression is stored again under the places of its variables. -/
theorem Stored.rename {Content : Type} {registry : Registry .var Content}
    (wellFormed : registry.WellFormed) {expr : Expr K} (stored : expr.Stored registry.ids)
    {live : List VariableId} (placed : ∀ id ∈ registry.ids, registry.place id ∈ live) :
    (expr.rename registry.place).Stored live where
  canonical := stored.canonical.rename fun left leftMember right rightMember =>
    wellFormed.place_lt (stored.live left leftMember) (stored.live right rightMember)
  live := by
    intro id member
    obtain ⟨old, oldMember, rfl⟩ := mem_vars_rename.mp member
    exact placed old (stored.live old oldMember)

end Expr

/-! ## Agreement -/

section Agreement

variable {K : Type} [BEq K]

/-- The same keys in the same order, with coefficients that pass the equality test. -/
def Terms.Agrees {Key : Type} (left right : Terms Key K) : Prop :=
  List.Forall₂ (fun first second => first.1 = second.1 ∧ (first.2 == second.2) = true) left right

structure Expr.Agrees (left right : Expr K) : Prop where
  constant : (left.constant == right.constant) = true
  linear : Terms.Agrees left.linear right.linear
  quadratic : Terms.Agrees left.quadratic right.quadratic

inductive ConstraintFunction.Agrees : ConstraintFunction K → ConstraintFunction K → Prop where
  | scalar {left right : Expr K} (same : left.Agrees right) : Agrees (.scalar left) (.scalar right)
  | vector {left right : List (Expr K)} (same : List.Forall₂ Expr.Agrees left right) :
      Agrees (.vector left) (.vector right)

/-- Whether `other` is `model` with its live variables and its live constraints numbered
by their places: the same bounds, categories, names and sets, and functions and
objective with the same terms in the same order under the places of the
variables.  Numbers are compared by their equality test. -/
structure Model.Renumbers (model other : Model K) : Prop where
  varIds : other.vars.ids = (List.range model.vars.size).map EntityId.mk
  vars : List.Forall₂ (fun (old new : Entry .var (Variable K)) =>
    new.id = model.vars.place old.id ∧ new.name = old.name ∧
      (new.content == old.content) = true) model.vars.entries other.vars.entries
  objective : Option.Rel (fun old new => new.sense = old.sense ∧
    (old.expr.rename model.vars.place).Agrees new.expr) model.objective other.objective
  conIds : other.constraints.ids = (List.range model.constraints.size).map EntityId.mk
  constraints : List.Forall₂ (fun (old new : Entry .con (Constraint K)) =>
    new.id = model.constraints.place old.id ∧ new.name = old.name ∧
      (new.content.set == old.content.set) = true ∧
      (old.content.function.map (Expr.rename model.vars.place)).Agrees new.content.function)
    model.constraints.entries other.constraints.entries

end Agreement

end ConicModel
