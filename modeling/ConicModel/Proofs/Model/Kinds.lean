import ConicModel.Proofs.Model.Validity
import Mathlib.Algebra.BigOperators.Group.List.Lemmas

/-!
Contract: the kinds of the constraints of a model, and how many constraints each of them has.

Owns:
- the order of kinds, which is strict and total, and sorted kinds without repetitions;
- the terms that decide the kind of a function, and what the removal of a variable makes of it;
- the fact that the listed kinds part the constraints of a reachable model.

Does not own: which kinds a solver takes.

Kinds are worked out when they are asked for, from the functions as they are then.
-/

namespace ConicModel

/-! ## The order of kinds -/

theorem FunctionKind.eq_of_rank {left right : FunctionKind} (same : left.rank = right.rank) :
    left = right := by
  cases left <;> cases right <;> first | rfl | cases same

namespace ConstraintKind

variable {left middle right : ConstraintKind}

theorem before_iff : left.before right = true ↔ left.function.rank < right.function.rank ∨
    left.function = right.function ∧ left.set < right.set := by
  unfold before
  rw [Bool.or_eq_true, Bool.and_eq_true, decide_eq_true_iff, decide_eq_true_iff, beq_iff_eq]

theorem before_irrefl (kind : ConstraintKind) : ¬ kind.before kind = true := by
  rw [before_iff]
  rintro (below | ⟨-, below⟩)
  · exact Nat.lt_irrefl _ below
  · exact String.lt_irrefl _ below

theorem before_trans (first : left.before middle = true) (second : middle.before right = true) :
    left.before right = true := by
  rw [before_iff] at *
  rcases first with first | ⟨same, first⟩
  · rcases second with second | ⟨same, -⟩
    · exact .inl (Nat.lt_trans first second)
    · exact .inl (same ▸ first)
  · rcases second with second | ⟨same', second⟩
    · exact .inl (same ▸ second)
    · exact .inr ⟨same.trans same', String.lt_trans first second⟩

/-- Of two different kinds one comes before the other. -/
theorem before_of_not_before (different : left ≠ right) (notBefore : ¬ left.before right = true) :
    right.before left = true := by
  rw [before_iff, not_or, not_and] at notBefore
  obtain ⟨notBelow, setNotBelow⟩ := notBefore
  rw [before_iff]
  rcases Nat.lt_or_eq_of_le (Nat.le_of_not_lt notBelow) with below | same
  · exact .inl below
  · have function := FunctionKind.eq_of_rank same
    refine .inr ⟨function, ?_⟩
    by_contra setNotAbove
    refine different ?_
    have set : left.set = right.set :=
      String.le_antisymm (String.not_lt.mp setNotAbove)
        (String.not_lt.mp (setNotBelow function.symm))
    obtain ⟨leftFunction, leftSet⟩ := left
    obtain ⟨rightFunction, rightSet⟩ := right
    exact congrArg₂ ConstraintKind.mk function.symm set

/-! ## Sorting -/

def notAfter (left right : ConstraintKind) : Bool :=
  !right.before left

theorem notAfter_trans (first : left.notAfter middle = true) (second : middle.notAfter right = true) :
    left.notAfter right = true := by
  unfold notAfter at *
  rw [Bool.not_eq_true'] at *
  refine Bool.eq_false_iff.mpr fun after => ?_
  by_cases same : right = middle
  · exact Bool.eq_false_iff.mp first (same ▸ after)
  · have behind := before_of_not_before same (Bool.eq_false_iff.mp second)
    exact Bool.eq_false_iff.mp first (before_trans behind after)

theorem notAfter_total (left right : ConstraintKind) :
    (left.notAfter right || right.notAfter left) = true := by
  unfold notAfter
  rw [← Bool.not_and, Bool.not_eq_true', Bool.eq_false_iff]
  intro both
  rw [Bool.and_eq_true] at both
  exact before_irrefl left (before_trans both.2 both.1)

/-- Of two different kinds the one that is not after the other comes before it. -/
theorem before_of_notAfter (different : left ≠ right) (notAfter : left.notAfter right = true) :
    left.before right = true := by
  unfold ConstraintKind.notAfter at notAfter
  rw [Bool.not_eq_true', Bool.eq_false_iff] at notAfter
  exact before_of_not_before (Ne.symm different) notAfter

/-- Of the kinds that repeat the one before them only the first is kept. -/
def withoutRepeats : List ConstraintKind → List ConstraintKind
  | [] => []
  | [only] => [only]
  | first :: second :: kinds =>
    if first = second then withoutRepeats (second :: kinds)
    else first :: withoutRepeats (second :: kinds)

theorem mem_withoutRepeats {kinds : List ConstraintKind} {kind : ConstraintKind} :
    kind ∈ withoutRepeats kinds ↔ kind ∈ kinds := by
  induction kinds using withoutRepeats.induct with
  | case1 => rfl
  | case2 only => rfl
  | case3 first kinds inductionHypothesis =>
    rw [withoutRepeats, if_pos rfl, inductionHypothesis]
    simp
  | case4 first second kinds different inductionHypothesis =>
    rw [withoutRepeats, if_neg different, List.mem_cons, inductionHypothesis]
    exact List.mem_cons.symm

theorem increasing_withoutRepeats {kinds : List ConstraintKind}
    (sorted : kinds.Pairwise fun left right => left.notAfter right = true) :
    (withoutRepeats kinds).Pairwise fun left right => left.before right = true := by
  induction kinds using withoutRepeats.induct with
  | case1 => exact .nil
  | case2 only => exact List.pairwise_singleton _ _
  | case3 first kinds inductionHypothesis =>
    rw [withoutRepeats, if_pos rfl]
    exact inductionHypothesis (List.pairwise_cons.mp sorted).2
  | case4 first second kinds different inductionHypothesis =>
    obtain ⟨firstBehind, later⟩ := List.pairwise_cons.mp sorted
    obtain ⟨secondBehind, -⟩ := List.pairwise_cons.mp later
    have ahead := before_of_notAfter different (firstBehind second List.mem_cons_self)
    rw [withoutRepeats, if_neg different]
    refine List.pairwise_cons.mpr ⟨fun other member => ?_, inductionHypothesis later⟩
    rcases List.mem_cons.mp (mem_withoutRepeats.mp member) with rfl | member
    · exact ahead
    · by_cases same : second = other
      · exact same ▸ ahead
      · exact before_trans ahead (before_of_notAfter same (secondBehind other member))

theorem nodup_of_increasing {kinds : List ConstraintKind}
    (increasing : kinds.Pairwise fun left right => left.before right = true) : kinds.Nodup := by
  refine increasing.imp ?_
  rintro kind _ before rfl
  exact before_irrefl kind before

/-- Strictly increasing kinds are told by which of them there are. -/
theorem eq_of_increasing {lefts rights : List ConstraintKind}
    (increasing : lefts.Pairwise fun left right => left.before right = true)
    (increasing' : rights.Pairwise fun left right => left.before right = true)
    (same : ∀ kind, kind ∈ lefts ↔ kind ∈ rights) : lefts = rights := by
  have members := List.perm_ext_iff_of_nodup (nodup_of_increasing increasing)
    (nodup_of_increasing increasing')
  refine List.Perm.eq_of_pairwise ?_ increasing increasing' (members.mpr same)
  exact fun left _ _ _ before after => absurd (before_trans before after) (before_irrefl left)

end ConstraintKind

/-! ## Kinds and functions -/

namespace FunctionKind

variable {K : Type} {function : ConstraintFunction K}

theorem degree_eq_two_iff {expr : Expr K} : expr.degree = 2 ↔ expr.quadratic ≠ [] := by
  unfold Expr.degree
  split
  · next quadratic => exact iff_of_true rfl quadratic
  · next affine =>
    refine iff_of_false ?_ affine
    split <;> decide

theorem of_eq_quadratic_iff :
    of function = quadratic ↔ ∃ expr, function = .scalar expr ∧ expr.quadratic ≠ [] := by
  cases function with
  | scalar expr =>
    simp only [of, ConstraintFunction.scalar.injEq, exists_eq_left', ← degree_eq_two_iff]
    split <;> simp [*]
  | vector components => simp [of]

theorem of_eq_affine_iff :
    of function = affine ↔ ∃ expr, function = .scalar expr ∧ expr.quadratic = [] := by
  cases function with
  | scalar expr =>
    have degree : ¬ expr.degree = 2 ↔ expr.quadratic = [] := degree_eq_two_iff.not.trans not_not
    simp only [of, ConstraintFunction.scalar.injEq, exists_eq_left', ← degree]
    split <;> simp [*]
  | vector components => simp [of]

end FunctionKind

/-- Whether a function has terms of degree two, all of which mention a variable. -/
def ConstraintFunction.IsBentBy {K : Type} (function : ConstraintFunction K) (id : VariableId) :
    Prop :=
  ∃ expr, function = .scalar expr ∧ expr.quadratic ≠ [] ∧
    ∀ term ∈ expr.quadratic, term.1.mentions id = true

namespace ConstraintKind

variable {K : Type} {constraint : Constraint K} {id : VariableId}

/-- A function that only one variable bends is affine without it. -/
theorem of_withoutVariable_of_isBentBy (bent : constraint.function.IsBentBy id) :
    of (constraint.withoutVariable id) = ⟨.affine, constraint.set.name⟩ := by
  obtain ⟨expr, function, -, mentioned⟩ := bent
  refine congrArg₂ ConstraintKind.mk (FunctionKind.of_eq_affine_iff.mpr ?_) rfl
  refine ⟨expr.withoutVariable id, ?_, List.filter_eq_nil_iff.mpr fun term member => ?_⟩
  · unfold Constraint.withoutVariable
    rw [function]
    rfl
  · rw [mentioned term member]
    decide

/-- Otherwise the kind of a constraint stays what it is. -/
theorem of_withoutVariable_of_not_isBentBy (notBent : ¬ constraint.function.IsBentBy id) :
    of (constraint.withoutVariable id) = of constraint := by
  refine congrArg₂ ConstraintKind.mk ?_ rfl
  obtain ⟨function, set⟩ := constraint
  cases function with
  | vector components => rfl
  | scalar expr =>
    by_cases affine : expr.quadratic = []
    · rw [FunctionKind.of_eq_affine_iff.mpr ⟨expr, rfl, affine⟩]
      refine FunctionKind.of_eq_affine_iff.mpr ⟨expr.withoutVariable id, rfl, ?_⟩
      unfold Expr.withoutVariable
      rw [affine]
      rfl
    · rw [FunctionKind.of_eq_quadratic_iff.mpr ⟨expr, rfl, affine⟩]
      refine FunctionKind.of_eq_quadratic_iff.mpr ⟨expr.withoutVariable id, rfl, fun none => ?_⟩
      refine notBent ⟨expr, rfl, affine, fun term member => ?_⟩
      have dropped := List.filter_eq_nil_iff.mp none term member
      rwa [Bool.not_eq_true, Bool.not_eq_false'] at dropped

end ConstraintKind

namespace Model

open ConstraintKind (before_trans before_of_not_before)

/-! ## The list of kinds -/

section Kinds

variable {kind other : ConstraintKind} {kinds : List ConstraintKind}

theorem mem_insertKind : other ∈ insertKind kind kinds ↔ other = kind ∨ other ∈ kinds := by
  induction kinds with
  | nil => simp [insertKind]
  | cons first kinds inductionHypothesis =>
    unfold insertKind
    split
    · exact List.mem_cons
    · split
      · next same => simp [same]
      · rw [List.mem_cons, inductionHypothesis, List.mem_cons]
        exact or_left_comm

theorem increasing_insertKind (kind : ConstraintKind)
    (increasing : kinds.Pairwise fun left right => left.before right = true) :
    (insertKind kind kinds).Pairwise fun left right => left.before right = true := by
  induction kinds with
  | nil => exact List.pairwise_singleton _ _
  | cons first kinds inductionHypothesis =>
    obtain ⟨behind, later⟩ := List.pairwise_cons.mp increasing
    unfold insertKind
    split
    · next ahead =>
      refine List.pairwise_cons.mpr ⟨fun other member => ?_, increasing⟩
      rcases List.mem_cons.mp member with rfl | member
      · exact ahead
      · exact before_trans ahead (behind other member)
    · next notAhead =>
      split
      · exact increasing
      · next different =>
        refine List.pairwise_cons.mpr ⟨fun other member => ?_, inductionHypothesis later⟩
        rcases mem_insertKind.mp member with rfl | member
        · exact before_of_not_before different notAhead
        · exact behind other member

end Kinds

section Listing

variable {K : Type} (model : Model K)

theorem mem_constraintKinds {kind : ConstraintKind} :
    kind ∈ model.constraintKinds ↔ kind ∈ model.storedKinds := by
  unfold constraintKinds
  induction model.storedKinds with
  | nil => rfl
  | cons first kinds inductionHypothesis =>
    rw [List.foldr_cons, mem_insertKind, inductionHypothesis, List.mem_cons]

theorem increasing_constraintKinds :
    model.constraintKinds.Pairwise fun left right => left.before right = true := by
  unfold constraintKinds
  induction model.storedKinds with
  | nil => exact .nil
  | cons first kinds inductionHypothesis =>
    rw [List.foldr_cons]
    exact increasing_insertKind first inductionHypothesis

theorem nodup_constraintKinds : model.constraintKinds.Nodup :=
  ConstraintKind.nodup_of_increasing model.increasing_constraintKinds

theorem constraintKinds_eq_sorted :
    model.constraintKinds =
      ConstraintKind.withoutRepeats (model.storedKinds.mergeSort ConstraintKind.notAfter) := by
  have sorted := @List.pairwise_mergeSort _ ConstraintKind.notAfter
    (fun _ _ _ => ConstraintKind.notAfter_trans) ConstraintKind.notAfter_total model.storedKinds
  refine ConstraintKind.eq_of_increasing model.increasing_constraintKinds
    (ConstraintKind.increasing_withoutRepeats sorted) fun kind => ?_
  rw [mem_constraintKinds, ConstraintKind.mem_withoutRepeats, List.mem_mergeSort]

/-- Every constraint is counted under one of the listed kinds. -/
theorem sum_countOf : (model.constraintKinds.map model.countOf).sum = model.constraints.size := by
  have listed : model.constraintKinds.Perm model.storedKinds.dedup :=
    (List.perm_ext_iff_of_nodup model.nodup_constraintKinds (List.nodup_dedup _)).mpr fun kind => by
      rw [mem_constraintKinds, List.mem_dedup]
  have counted := List.sum_map_count_dedup_eq_length model.storedKinds
  rw [(listed.map model.countOf).sum_eq]
  exact counted.trans (List.length_map _)

/-! ## The constraints of a kind -/

def kind? (id : ConstraintId) : Option ConstraintKind :=
  (model.constraints.content? id).map ConstraintKind.of

def idsOf (kind : ConstraintKind) : List ConstraintId :=
  model.constraints.ids.filter fun id => model.kind? id = some kind

variable {model} {kind : ConstraintKind} {id : ConstraintId}

theorem mem_idsOf :
    id ∈ model.idsOf kind ↔ id ∈ model.constraints.ids ∧ model.kind? id = some kind := by
  unfold idsOf
  rw [List.mem_filter, decide_eq_true_iff]

theorem kind?_of_mem (wellFormed : model.constraints.WellFormed)
    {entry : Entry .con (Constraint K)} (member : entry ∈ model.constraints.entries) :
    model.kind? entry.id = some (.of entry.content) := by
  unfold kind? Registry.content?
  rw [wellFormed.entry?_eq member]
  rfl

/-- As many constraints are counted under a kind as there are ids of that kind. -/
theorem length_idsOf (wellFormed : model.constraints.WellFormed) (kind : ConstraintKind) :
    (model.idsOf kind).length = model.countOf kind := by
  unfold idsOf countOf storedKinds Registry.ids List.count
  rw [← List.countP_eq_length_filter, List.countP_map, List.countP_map]
  refine List.countP_congr fun entry member => ?_
  simp only [Function.comp_apply, decide_eq_true_iff, beq_iff_eq,
    kind?_of_mem wellFormed member, Option.some.injEq]

end Listing

/-! ## The removal of a variable -/

section Removal

variable {K : Type} [ExtendedNumber K] [Zero K] [BEq K] [Add K] {model : Model K}
  {id : VariableId} {outcome : Outcome K}

/-- The removal of a variable leaves every constraint under the kind of what is left of it. -/
theorem kind?_of_removal (applied : model.apply (.remove (.var id)) = .ok outcome)
    (con : ConstraintId) :
    outcome.model.kind? con =
      (model.constraints.content? con).map fun constraint =>
        .of (constraint.withoutVariable id) := by
  cases change_of_apply applied with
  | updateBounds _ _ _ asked => cases asked
  | removeVariable _ live =>
    have content : (touch (dropVariable model id)).constraints.content? con =
        (model.constraints.content? con).map fun constraint => constraint.withoutVariable id :=
      model.constraints.content?_mapContent _ con
    unfold kind?
    rw [content, Option.map_map]
    rfl

end Removal

/-! ## The partition -/

structure Partitioned {K : Type} (model : Model K) : Prop where
  /-- The kinds of all constraints are sorted, and repetitions are left out. -/
  sorted : model.constraintKinds =
    ConstraintKind.withoutRepeats (model.storedKinds.mergeSort ConstraintKind.notAfter)
  /-- The kinds are listed in strictly increasing order. -/
  increasing : model.constraintKinds.Pairwise fun left right => left.before right = true
  /-- A kind is listed exactly if some constraint is counted under it. -/
  listed : ∀ kind, kind ∈ model.constraintKinds ↔ 0 < model.countOf kind
  /-- Together the kinds have all constraints. -/
  total : (model.constraintKinds.map model.countOf).sum = model.constraints.size
  /-- The count of a kind is the number of constraints that have it. -/
  counted : ∀ kind, model.countOf kind = (model.idsOf kind).length
  /-- A constraint has one kind, that of its function and set as they are stored. -/
  once : ∀ id constraint, model.getConstraint id = .ok constraint →
    ∀ kind, id ∈ model.idsOf kind ↔ kind = .of constraint

theorem WellFormed.partitioned {K : Type} [ExtendedNumber K] [Zero K] [BEq K] {model : Model K}
    (wellFormed : model.WellFormed) : model.Partitioned where
  sorted := model.constraintKinds_eq_sorted
  increasing := model.increasing_constraintKinds
  listed kind := by
    unfold countOf
    rw [model.mem_constraintKinds, List.count_pos_iff]
  total := model.sum_countOf
  counted kind := (length_idsOf wellFormed.constraints kind).symm
  once := by
    intro id constraint found kind
    obtain ⟨entry, present, rfl⟩ := Option.map_eq_some_iff.mp (getConstraint_eq_ok.mp found)
    obtain ⟨member, rfl⟩ := Registry.mem_of_entry?_eq present
    rw [mem_idsOf, kind?_of_mem wellFormed.constraints member, Option.some.injEq]
    exact (and_iff_right (Registry.mem_ids member)).trans eq_comm

/-- The kinds of a reachable model part its constraints.  The removal of a variable moves those
constraints whose functions only this variable bends under an affine kind, and no others. -/
theorem kinds_partition {model : Model Float} (reached : model.Reachable) :
    model.Partitioned ∧
      ∀ id outcome, model.apply (.remove (.var id)) = .ok outcome →
        outcome.model.Partitioned ∧
          ∀ con constraint, model.getConstraint con = .ok constraint →
            outcome.model.kind? con = some (.of (constraint.withoutVariable id)) ∧
              (constraint.function.IsBentBy id →
                outcome.model.kind? con = some ⟨.affine, constraint.set.name⟩) ∧
              (¬ constraint.function.IsBentBy id →
                outcome.model.kind? con = some (.of constraint)) := by
  refine ⟨reached.wellFormed.partitioned, fun id outcome applied => ?_⟩
  refine ⟨(reached.wellFormed.apply applied).partitioned, fun con constraint found => ?_⟩
  have kind : outcome.model.kind? con = some (.of (constraint.withoutVariable id)) := by
    rw [kind?_of_removal applied con, getConstraint_eq_ok.mp found]
    rfl
  refine ⟨kind, fun bent => ?_, fun notBent => ?_⟩
  · rw [kind, ConstraintKind.of_withoutVariable_of_isBentBy bent]
  · rw [kind, ConstraintKind.of_withoutVariable_of_not_isBentBy notBent]

/-- Two constraints with a product of two variables, of which one has a square as well, and two
affine ones. -/
def bentEdits : List (Edit Float) :=
  [.addVariable .free .continuous,
    .addVariable .free .continuous,
    .addConstraint ⟨.scalar ⟨0, [(⟨0⟩, 1)], [((⟨0⟩, ⟨1⟩), 2)]⟩, .lessThan 1⟩,
    .addConstraint ⟨.scalar ⟨0, [(⟨0⟩, 1)], []⟩, .lessThan 3⟩,
    .addConstraint ⟨.scalar ⟨0, [], [((⟨0⟩, ⟨1⟩), 2), ((⟨0⟩, ⟨0⟩), 1)]⟩, .lessThan 1⟩,
    .addConstraint ⟨.vector [⟨0, [(⟨1⟩, 1)], []⟩], .cone .zeros 1⟩]

theorem kinds_partition_bentEdits :
    let model := bentEdits.foldl attempt empty
    (model.Reachable ∧
      model.constraintKinds =
        [⟨.affine, "LessThan"⟩, ⟨.quadratic, "LessThan"⟩, ⟨.vectorAffine, "Zeros"⟩] ∧
      model.constraintKinds.map model.countOf = [1, 2, 1] ∧
      model.getConstraint ⟨0⟩ =
        .ok ⟨.scalar ⟨0, [(⟨0⟩, 1)], [((⟨0⟩, ⟨1⟩), 2)]⟩, .lessThan 1⟩) ∧
      model.Partitioned ∧
      ∃ outcome, model.apply (.remove (.var ⟨1⟩)) = .ok outcome ∧ outcome.model.Partitioned ∧
        outcome.model.kind? ⟨0⟩ = some ⟨.affine, "LessThan"⟩ ∧
        outcome.model.constraintKinds.map outcome.model.countOf = [2, 1, 1] := by
  intro model
  have reached : model.Reachable := Reachable.empty.foldl_attempt bentEdits
  have found : model.getConstraint ⟨0⟩ =
      .ok ⟨.scalar ⟨0, [(⟨0⟩, 1)], [((⟨0⟩, ⟨1⟩), 2)]⟩, .lessThan 1⟩ :=
    getConstraint_eq_ok.mpr (by decide +kernel)
  have live : model.vars.contains ⟨1⟩ = true := by decide +kernel
  have applied : model.apply (.remove (.var ⟨1⟩)) =
      .ok ⟨touch (dropVariable model ⟨1⟩), none⟩ :=
    (Change.removeVariable ⟨1⟩ live).apply_eq
  obtain ⟨parted, removal⟩ := kinds_partition reached
  obtain ⟨partedThen, kinds⟩ := removal _ _ applied
  refine ⟨⟨reached, by decide +kernel, by decide +kernel, found⟩, parted, _, applied, partedThen,
    ?_, by decide +kernel⟩
  exact (kinds _ _ found).2.1 ⟨_, rfl, by decide, by decide⟩

end Model

end ConicModel
