import ConicModel.Proofs.Expr.Canonical
import ConicModel.Proofs.Float.Arithmetic
import Mathlib.Data.List.Induction

/-!
Contract: which coefficients the canonical form of terms has.

Owns:
- the sum of the coefficients of a key, from the left and starting at zero;
- what looking a key up gives after coefficients were summed at their keys;
- the fact that the canonical form holds these sums, without those that are zero;
- finite expressions, and the expressions whose canonical form is finite.

Does not own: the order of the keys in the canonical form.

Looking up is the right view on `addAt`, which walks the terms to find its place: what it
does to the look-up of any key can be said without the place.  The sums are of coefficients
in stored order, so that they may be floats.
-/

namespace ConicModel.Terms

variable {Key K : Type} [DecidableEq Key] {before : Key → Key → Bool}

/-! ## Looking keys up -/

theorem lookup_cons (key other : Key) (coefficient : K) (terms : Terms Key K) :
    List.lookup key ((other, coefficient) :: terms) =
      if key = other then some coefficient else terms.lookup key := by
  by_cases same : key = other
  · simp [same]
  · rw [if_neg same, List.lookup_cons, beq_false_of_ne same]

theorem lookup_of_below (order : StrictOrder before) {key : Key} {terms : Terms Key K}
    (below : ∀ term ∈ terms, before key term.1 = true) : terms.lookup key = none := by
  rw [List.lookup_eq_none_iff]
  intro term member
  simpa using order.ne (below term member)

/-- Increasing keys differ, so that looking a key up finds its only term. -/
theorem Increasing.lookup_eq_some_iff (order : StrictOrder before) {key : Key} {value : K} :
    ∀ {terms : Terms Key K}, Increasing before terms →
      (terms.lookup key = some value ↔ (key, value) ∈ terms) := by
  intro terms increasing
  induction terms with
  | nil => simp
  | cons term terms inductionHypothesis =>
    obtain ⟨other, coefficient⟩ := term
    obtain ⟨above, rest⟩ := List.pairwise_cons.mp increasing
    by_cases same : key = other
    · subst same
      have absent : (key, value) ∉ terms := fun later => order.ne (above _ later) rfl
      simp [absent, eq_comm]
    · simp [lookup_cons, same, inductionHypothesis rest]

section Sums

variable [Zero K] [Add K]

/-- Adding at a key changes what is found at that key alone. -/
theorem lookup_addAt (order : StrictOrder before) (key other : Key) (coefficient : K)
    {terms : Terms Key K} (increasing : Increasing before terms) :
    (addAt before key coefficient terms).lookup other =
      if other = key then some ((terms.lookup key).getD 0 + coefficient)
      else terms.lookup other := by
  induction terms with
  | nil => by_cases here : other = key <;> simp [addAt, lookup_cons, here]
  | cons term terms inductionHypothesis =>
    obtain ⟨first, sum⟩ := term
    obtain ⟨above, rest⟩ := List.pairwise_cons.mp increasing
    rw [addAt]
    by_cases below : before key first = true
    · have absent : List.lookup key ((first, sum) :: terms) = none := by
        refine lookup_of_below order (List.forall_mem_cons.mpr ⟨below, ?_⟩)
        intro term member
        exact order.transitive below (above term member)
      rw [if_pos below, absent]
      by_cases here : other = key <;> simp [lookup_cons, here]
    · rw [if_neg below]
      by_cases same : key = first
      · subst same
        by_cases here : other = key <;> simp [lookup_cons, here]
      · by_cases here : other = first
        · subst here
          simp [same, Ne.symm same]
        · simp [lookup_cons, same, here, inductionHypothesis rest]

/-- The sum of the coefficients that a key has, from the left and starting at zero. -/
def sumAt (key : Key) (terms : Terms Key K) : K :=
  terms.foldl (fun sum term => if term.1 = key then sum + term.2 else sum) 0

theorem sumAt_concat (key : Key) (terms : Terms Key K) (term : Key × K) :
    sumAt key (terms ++ [term]) =
      if term.1 = key then sumAt key terms + term.2 else sumAt key terms := by
  simp [sumAt]

theorem sumAt_of_absent {key : Key} {terms : Terms Key K}
    (absent : key ∉ terms.map Prod.fst) : sumAt key terms = 0 := by
  induction terms using List.reverseRecOn with
  | nil => rfl
  | append_singleton terms term inductionHypothesis =>
    rw [List.map_append, List.mem_append, not_or] at absent
    have different : term.1 ≠ key := fun same => absent.2 (by simp [same])
    rw [sumAt_concat, if_neg different, inductionHypothesis absent.1]

/-- After coefficients were added at their keys, each key that was given has its sum. -/
theorem lookup_foldl_addAt (order : StrictOrder before) (key : Key) (terms : Terms Key K) :
    (terms.foldl (fun sums term => addAt before term.1 term.2 sums) []).lookup key =
      if key ∈ terms.map Prod.fst then some (sumAt key terms) else none := by
  -- The last term is added to what is there already, so the list is taken apart at its end.
  induction terms using List.reverseRecOn with
  | nil => rfl
  | append_singleton terms term inductionHypothesis =>
    have increasing : Increasing before
        (terms.foldl (fun sums term => addAt before term.1 term.2 sums) []) :=
      foldl_addAt_increasing order terms List.Pairwise.nil
    have grown : key ∈ (terms ++ [term]).map Prod.fst ↔
        key ∈ terms.map Prod.fst ∨ key = term.1 := by
      rw [List.map_append, List.mem_append, List.map_singleton, List.mem_singleton]
    rw [List.foldl_append, List.foldl_cons, List.foldl_nil, lookup_addAt order _ _ _ increasing,
      sumAt_concat]
    by_cases last : key = term.1
    · rw [if_pos last, if_pos (grown.mpr (.inr last)), if_pos last.symm, ← last,
        inductionHypothesis]
      by_cases given : key ∈ terms.map Prod.fst
      · rw [if_pos given, Option.getD_some]
      · rw [if_neg given, Option.getD_none, sumAt_of_absent given]
    · rw [if_neg last, if_neg (Ne.symm last), inductionHypothesis]
      exact if_congr (by simp only [grown, last, or_false]) rfl rfl

end Sums

/-! ## The coefficients of the canonical form -/

section Merged

variable [Zero K] [BEq K] [Add K]

/-- The sum of the coefficients of a key that are not zero, from the left and starting at
zero. -/
def total (key : Key) (terms : Terms Key K) : K :=
  sumAt key (nonzero terms)

/-- The canonical form has the sums of the keys that have a coefficient other than zero,
unless the sum is zero itself. -/
theorem mem_merged_iff (order : StrictOrder before) {terms : Terms Key K} {key : Key} {value : K} :
    (key, value) ∈ merged before terms ↔
      key ∈ (nonzero terms).map Prod.fst ∧ value = total key terms ∧ (value != 0) = true := by
  have increasing : Increasing before
      ((nonzero terms).foldl (fun sums term => addAt before term.1 term.2 sums) []) :=
    foldl_addAt_increasing order _ List.Pairwise.nil
  unfold merged
  rw [nonzero, List.mem_filter, ← increasing.lookup_eq_some_iff order,
    lookup_foldl_addAt order]
  by_cases given : key ∈ (nonzero terms).map Prod.fst
  · rw [if_pos given, Option.some.injEq, @eq_comm _ value]
    simp [given, total]
  · simp [given]

end Merged

end ConicModel.Terms

namespace ConicModel

/-! ## Finite expressions -/

theorem Terms.firstNonFinite?_eq_none {Key K : Type} [ExtendedNumber K] {terms : Terms Key K} :
    firstNonFinite? terms = none ↔ ∀ term ∈ terms, ExtendedNumber.isFinite term.2 = true := by
  unfold firstNonFinite?
  rw [List.find?_eq_none, List.forall_mem_map]
  simp only [Bool.not_eq_true', Bool.not_eq_false]

/-- The canonical form of terms is finite exactly if all totals are.  The totals that it
leaves out are zero. -/
theorem Terms.finite_merged_iff {Key : Type} [DecidableEq Key] {before : Key → Key → Bool}
    (order : StrictOrder before) {terms : Terms Key Float} :
    (∀ term ∈ merged before terms, term.2.isFinite = true) ↔
      ∀ key, (total key terms).isFinite = true := by
  constructor
  · intro finite key
    by_cases zero : (total key terms == 0) = true
    · exact Binary64.isFinite_of_beq_zero zero
    · by_cases given : key ∈ (nonzero terms).map Prod.fst
      · have notZero : (total key terms != 0) = true := by simp [bne, zero]
        exact finite (key, total key terms) ((mem_merged_iff order).mpr ⟨given, rfl, notZero⟩)
      · rw [total, sumAt_of_absent given]
        rfl
  · rintro finite ⟨key, value⟩ member
    obtain ⟨_, rfl, _⟩ := (mem_merged_iff order).mp member
    exact finite key

namespace Expr

theorem checkFinite_eq_ok {K : Type} [ExtendedNumber K] {expr : Expr K} :
    expr.checkFinite = .ok () ↔ ExtendedNumber.isFinite expr.constant = true ∧
      (∀ term ∈ expr.linear, ExtendedNumber.isFinite term.2 = true) ∧
      ∀ term ∈ expr.quadratic, ExtendedNumber.isFinite term.2 = true := by
  rw [← Terms.firstNonFinite?_eq_none, ← Terms.firstNonFinite?_eq_none]
  unfold checkFinite
  cases ExtendedNumber.isFinite expr.constant with
  | false => simp
  | true =>
    cases Terms.firstNonFinite? expr.linear with
    | some coefficient => simp
    | none => cases Terms.firstNonFinite? expr.quadratic <;> simp

def orderedQuadratic {K : Type} (expr : Expr K) : Terms VariablePair K :=
  expr.quadratic.map fun term => (VariablePair.ordered term.1, term.2)

/-- No sum that the canonical form takes of coefficients is infinite or undefined. -/
structure SumsFinite (expr : Expr Float) : Prop where
  linear : ∀ id, (Terms.total id expr.linear).isFinite = true
  quadratic : ∀ pair, (Terms.total pair expr.orderedQuadratic).isFinite = true

/-- The canonical form passes the check for finite numbers exactly if the constant is finite
and all sums are. -/
theorem checkFinite_normalized_eq_ok {expr : Expr Float} :
    expr.normalized.checkFinite = .ok () ↔
      expr.constant.isFinite = true ∧ expr.SumsFinite := by
  rw [checkFinite_eq_ok]
  refine and_congr_right fun _ => ?_
  refine (and_congr (Terms.finite_merged_iff VariableId.strictOrder)
    (Terms.finite_merged_iff VariablePair.strictOrder)).trans ?_
  exact ⟨fun ⟨linear, quadratic⟩ => ⟨linear, quadratic⟩,
    fun sums => ⟨sums.linear, sums.quadratic⟩⟩

end Expr

end ConicModel
