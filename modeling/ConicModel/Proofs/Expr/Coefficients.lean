import ConicModel.Proofs.Expr.Omission
import ConicModel.Proofs.Expr.Sum
import Mathlib.Data.List.Perm.Basic

/-!
Contract: the canonical form as a function of the coefficients of each key.

Owns:
- the coefficients that a variable, or two variables in either order, have in an expression;
- the fact that the canonical form is given by these lists, one sum for each;
- the fact that terms of different keys may be swapped.

Does not own: the value of an expression.

The canonical form is computed by a fold that finds the place of each key.  Here it is said
without the fold.  Two expressions whose keys have the same coefficients, each in the same order,
have the same canonical form, whatever lies between these terms.
-/

namespace ConicModel

namespace Terms

variable {Key K : Type}

theorem Increasing.ext {before : Key → Key → Bool} (order : StrictOrder before)
    {first second : Terms Key K} (firstIncreasing : Increasing before first)
    (secondIncreasing : Increasing before second)
    (same : ∀ term, term ∈ first ↔ term ∈ second) : first = second := by
  have distinct : ∀ {terms : Terms Key K}, Increasing before terms → terms.Nodup :=
    fun increasing => increasing.imp fun below equal => order.ne below (congrArg Prod.fst equal)
  refine List.Perm.eq_of_pairwise ?_ firstIncreasing secondIncreasing
    ((List.perm_ext_iff_of_nodup (distinct firstIncreasing) (distinct secondIncreasing)).mpr same)
  intro left right _ _ below above
  have contradiction := order.asymmetric below
  rw [above] at contradiction
  cases contradiction

variable [Zero K] [BEq K]

/-- The coefficients other than zero of the keys that pass a test, in stored order. -/
def coefficients (keep : Key → Bool) (terms : Terms Key K) : List K :=
  (terms.filter fun term => keep term.1 && term.2 != 0).map Prod.snd

/-- Renaming keys before the test is the same as testing the new names. -/
theorem coefficients_map_key {Name : Type} (name : Key → Name) (keep : Name → Bool)
    (terms : Terms Key K) :
    coefficients keep (terms.map fun term => (name term.1, term.2)) =
      coefficients (fun key => keep (name key)) terms := by
  unfold coefficients
  rw [List.filter_map, List.map_map]
  rfl

/-- Where two terms do not both pass the test, their order is not seen. -/
theorem coefficients_swap {keep : Key → Bool} {first second : Key × K}
    (apart : keep first.1 = false ∨ keep second.1 = false) (earlier later : Terms Key K) :
    coefficients keep (earlier ++ second :: first :: later) =
      coefficients keep (earlier ++ first :: second :: later) := by
  unfold coefficients
  rcases apart with dropped | dropped <;> simp [List.filter_append, List.filter_cons, dropped]

variable [DecidableEq Key]

abbrev coefficientsAt (key : Key) (terms : Terms Key K) : List K :=
  coefficients (fun other => decide (other = key)) terms

theorem coefficientsAt_ne_nil {key : Key} {terms : Terms Key K} :
    coefficientsAt key terms ≠ [] ↔ key ∈ (nonzero terms).map Prod.fst := by
  unfold coefficientsAt coefficients nonzero
  simp only [ne_eq, List.map_eq_nil_iff, List.filter_eq_nil_iff, List.mem_map, List.mem_filter,
    Bool.and_eq_true, decide_eq_true_eq, not_forall, not_not, exists_prop]
  exact exists_congr fun term => ⟨fun ⟨member, same, notZero⟩ => ⟨⟨member, notZero⟩, same⟩,
    fun ⟨⟨member, notZero⟩, same⟩ => ⟨member, same, notZero⟩⟩

theorem total_eq_foldl [Add K] (key : Key) (terms : Terms Key K) :
    total key terms = (coefficientsAt key terms).foldl (· + ·) 0 := by
  have guarded : (nonzero terms).filter (fun term => decide (term.1 = key)) =
      terms.filter fun term => decide (term.1 = key) && term.2 != 0 := List.filter_filter
  unfold total sumAt coefficientsAt coefficients
  rw [List.foldl_map, ← guarded, List.foldl_filter]
  simp only [decide_eq_true_eq]

variable [Add K] {before : Key → Key → Bool}

/-- The canonical form has a key exactly if the key has coefficients and their sum is not
zero. -/
theorem mem_merged_iff_foldl (order : StrictOrder before) {terms : Terms Key K} {key : Key}
    {value : K} :
    (key, value) ∈ merged before terms ↔
      coefficientsAt key terms ≠ [] ∧
        value = (coefficientsAt key terms).foldl (· + ·) 0 ∧ (value != 0) = true := by
  rw [mem_merged_iff order, coefficientsAt_ne_nil, total_eq_foldl]

theorem merged_congr (order : StrictOrder before) {first second : Terms Key K}
    (same : ∀ key, coefficientsAt key first = coefficientsAt key second) :
    merged before first = merged before second := by
  refine Increasing.ext order (merged_canonical order first).increasing
    (merged_canonical order second).increasing ?_
  rintro ⟨key, value⟩
  rw [mem_merged_iff_foldl order, mem_merged_iff_foldl order, same key]

/-- Two neighbouring terms of different keys may be swapped. -/
theorem merged_swap (order : StrictOrder before) (first second : Key × K)
    (different : first.1 ≠ second.1) (earlier later : Terms Key K) :
    merged before (earlier ++ second :: first :: later) =
      merged before (earlier ++ first :: second :: later) := by
  refine merged_congr order fun key => coefficients_swap ?_ earlier later
  by_cases same : first.1 = key
  · exact .inr (decide_eq_false fun also => different (same.trans also.symm))
  · exact .inl (decide_eq_false same)

end Terms

/-! ## Pairs in either order -/

namespace VariablePair

theorem ordered_eq_iff_mem {pair : VariablePair} {left right : VariableId}
    (inOrder : left.number ≤ right.number) :
    ordered pair = (left, right) ↔ pair = (left, right) ∨ pair = (right, left) := by
  obtain ⟨⟨first⟩, ⟨second⟩⟩ := pair
  obtain ⟨left⟩ := left
  obtain ⟨right⟩ := right
  unfold ordered
  split <;> simp only [Prod.mk.injEq, EntityId.mk.injEq] at * <;> omega

/-- Two pairs are the same once ordered exactly if they have the same variables. -/
theorem ordered_eq_ordered_iff {first second : VariablePair} :
    ordered first = ordered second ↔ first = second ∨ first = second.swap := by
  obtain ⟨left, right⟩ := second
  by_cases inOrder : left.number ≤ right.number
  · have unchanged : ordered (left, right) = (left, right) := ordered_eq inOrder
    rw [unchanged, ordered_eq_iff_mem inOrder]
    rfl
  · have swapped : ordered (left, right) = (right, left) := if_neg inOrder
    rw [swapped, ordered_eq_iff_mem (not_le.mp inOrder).le]
    exact or_comm

end VariablePair

namespace Expr

/-! ## The coefficients of an expression -/

section Coefficients

variable {K : Type} [Zero K] [BEq K]

def linearCoefficients (expr : Expr K) (id : VariableId) : List K :=
  Terms.coefficientsAt id expr.linear

/-- The coefficients other than zero of the product of two variables, written in either order, in
stored order. -/
def pairCoefficients (expr : Expr K) (left right : VariableId) : List K :=
  Terms.coefficients (fun pair => decide (pair = (left, right) ∨ pair = (right, left)))
    expr.quadratic

theorem coefficientsAt_orderedQuadratic (expr : Expr K) {left right : VariableId}
    (inOrder : left.number ≤ right.number) :
    Terms.coefficientsAt (left, right) expr.orderedQuadratic =
      expr.pairCoefficients left right := by
  unfold orderedQuadratic pairCoefficients Terms.coefficientsAt
  rw [Terms.coefficients_map_key]
  congr 1
  funext pair
  exact decide_eq_decide.mpr (VariablePair.ordered_eq_iff_mem inOrder)

variable [Add K]

theorem mem_normalized_linear {expr : Expr K} {id : VariableId} {value : K} :
    (id, value) ∈ expr.normalized.linear ↔
      expr.linearCoefficients id ≠ [] ∧
        value = (expr.linearCoefficients id).foldl (· + ·) 0 ∧ (value != 0) = true :=
  Terms.mem_merged_iff_foldl VariableId.strictOrder

theorem mem_normalized_quadratic {expr : Expr K} {left right : VariableId} {value : K} :
    ((left, right), value) ∈ expr.normalized.quadratic ↔
      left.number ≤ right.number ∧ expr.pairCoefficients left right ≠ [] ∧
        value = (expr.pairCoefficients left right).foldl (· + ·) 0 ∧ (value != 0) = true := by
  have merged : ((left, right), value) ∈ expr.normalized.quadratic ↔
      Terms.coefficientsAt (left, right) expr.orderedQuadratic ≠ [] ∧
        value = (Terms.coefficientsAt (left, right) expr.orderedQuadratic).foldl (· + ·) 0 ∧
        (value != 0) = true := Terms.mem_merged_iff_foldl VariablePair.strictOrder
  constructor
  · intro member
    have inOrder : left.number ≤ right.number := expr.normalized_canonical.inOrder _ member
    rw [← coefficientsAt_orderedQuadratic expr inOrder]
    exact ⟨inOrder, merged.mp member⟩
  · rintro ⟨inOrder, given⟩
    rw [← coefficientsAt_orderedQuadratic expr inOrder] at given
    exact merged.mpr given

/-- Two neighbouring terms of different variables may be swapped. -/
theorem normalized_swap_linear {first second : VariableId × K} (different : first.1 ≠ second.1)
    (constant : K) (earlier later : Terms VariableId K) (quadratic : Terms VariablePair K) :
    normalized ⟨constant, earlier ++ second :: first :: later, quadratic⟩ =
      normalized ⟨constant, earlier ++ first :: second :: later, quadratic⟩ := by
  unfold normalized
  rw [Terms.merged_swap VariableId.strictOrder first second different]

/-- Two neighbouring products may be swapped unless they are of the same variables. -/
theorem normalized_swap_quadratic {first second : VariablePair × K}
    (different : first.1 ≠ second.1) (differentSwapped : first.1 ≠ second.1.swap)
    (constant : K) (linear : Terms VariableId K) (earlier later : Terms VariablePair K) :
    normalized ⟨constant, linear, earlier ++ second :: first :: later⟩ =
      normalized ⟨constant, linear, earlier ++ first :: second :: later⟩ := by
  have apart : VariablePair.ordered first.1 ≠ VariablePair.ordered second.1 := fun same =>
    (VariablePair.ordered_eq_ordered_iff.mp same).elim different differentSwapped
  unfold normalized
  simp only [List.map_append, List.map_cons]
  rw [Terms.merged_swap VariablePair.strictOrder (VariablePair.ordered first.1, first.2)
    (VariablePair.ordered second.1, second.2) apart]

end Coefficients

/-! ## The canonical form -/

/-- The canonical form keeps the constant, lists variables and ordered pairs in increasing order
without zero coefficients, and gives each the sum, from the left and starting at zero, of the
coefficients other than zero that it had.  It lacks what had none or has the sum zero.  So it is
its own canonical form, variables may be left out before or after, and neighbouring terms of
different keys may be swapped. -/
theorem normalized_from_coefficients (expr : Expr Float) :
    expr.normalized.constant = expr.constant ∧
    expr.normalized.Canonical ∧
    (∀ id value, (id, value) ∈ expr.normalized.linear ↔
      expr.linearCoefficients id ≠ [] ∧
        value = (expr.linearCoefficients id).foldl (· + ·) 0 ∧ (value != 0) = true) ∧
    (∀ left right value, ((left, right), value) ∈ expr.normalized.quadratic ↔
      left.number ≤ right.number ∧ expr.pairCoefficients left right ≠ [] ∧
        value = (expr.pairCoefficients left right).foldl (· + ·) 0 ∧ (value != 0) = true) ∧
    expr.normalized.normalized = expr.normalized ∧
    (∀ id, (expr.withoutVariable id).normalized = expr.normalized.withoutVariable id) ∧
    (∀ earlier first second later,
      expr.linear = earlier ++ first :: second :: later → first.1 ≠ second.1 →
      normalized { expr with linear := earlier ++ second :: first :: later } = expr.normalized) ∧
    (∀ earlier first second later,
      expr.quadratic = earlier ++ first :: second :: later →
      first.1 ≠ second.1 → first.1 ≠ second.1.swap →
      normalized { expr with quadratic := earlier ++ second :: first :: later } =
        expr.normalized) := by
  refine ⟨rfl, expr.normalized_canonical, fun _ _ => mem_normalized_linear,
    fun _ _ _ => mem_normalized_quadratic,
    normalized_of_canonical Binary64.zero_add_float expr.normalized_canonical,
    expr.normalized_withoutVariable, ?linear, ?quadratic⟩
  case linear =>
    intro earlier first second later stored different
    rw [normalized_swap_linear different, ← stored]
  case quadratic =>
    intro earlier first second later stored different differentSwapped
    rw [normalized_swap_quadratic different differentSwapped, ← stored]

/-- The swaps of two linear and of two quadratic terms, among terms whose keys are repeated. -/
theorem normalized_of_swapped_terms :
    normalized (⟨0.5, [(⟨1⟩, 2), (⟨0⟩, 1), (⟨1⟩, 3)], []⟩ : Expr Float) =
        normalized ⟨0.5, [(⟨0⟩, 1), (⟨1⟩, 2), (⟨1⟩, 3)], []⟩ ∧
      normalized (⟨0.5, [], [((⟨0⟩, ⟨0⟩), 4), ((⟨1⟩, ⟨0⟩), 2), ((⟨0⟩, ⟨1⟩), 3)]⟩ : Expr Float) =
        normalized ⟨0.5, [], [((⟨1⟩, ⟨0⟩), 2), ((⟨0⟩, ⟨0⟩), 4), ((⟨0⟩, ⟨1⟩), 3)]⟩ := by
  constructor
  · obtain ⟨_, _, _, _, _, _, swapped, _⟩ := normalized_from_coefficients
      ⟨0.5, [(⟨0⟩, 1), (⟨1⟩, 2), (⟨1⟩, 3)], []⟩
    exact swapped [] (⟨0⟩, 1) (⟨1⟩, 2) [(⟨1⟩, 3)] rfl (by decide)
  · obtain ⟨_, _, _, _, _, _, _, swapped⟩ := normalized_from_coefficients
      ⟨0.5, [], [((⟨1⟩, ⟨0⟩), 2), ((⟨0⟩, ⟨0⟩), 4), ((⟨0⟩, ⟨1⟩), 3)]⟩
    exact swapped [] ((⟨1⟩, ⟨0⟩), 2) ((⟨0⟩, ⟨0⟩), 4) [((⟨0⟩, ⟨1⟩), 3)] rfl (by decide) (by decide)

end Expr

end ConicModel
