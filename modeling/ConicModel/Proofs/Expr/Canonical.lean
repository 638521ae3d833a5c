import ConicModel.Expr.Basic
import Mathlib.Data.List.Basic

/-!
Contract: what the canonical form of an expression is, and what keeps it.

Owns:
- canonical terms, with increasing keys and no zero coefficient;
- the facts that `merged` makes terms canonical and leaves canonical ones alone;
- canonical expressions, and the operations of a model that keep them.

Does not own: the value of an expression.

Canonical terms are left alone as soon as zero may be added to every number
that is not zero.  Floats allow that, although their sums round.
-/

namespace ConicModel

namespace Terms

variable {Key K : Type}

structure StrictOrder (before : Key → Key → Bool) : Prop where
  irreflexive : ∀ key, before key key = false
  transitive : ∀ {first second third}, before first second = true →
    before second third = true → before first third = true
  total : ∀ {first second}, before first second = false → first ≠ second →
    before second first = true

theorem StrictOrder.asymmetric {before : Key → Key → Bool} (order : StrictOrder before)
    {first second : Key} (below : before first second = true) : before second first = false := by
  by_contra above
  have cycle := order.transitive below (eq_true_of_ne_false above)
  rw [order.irreflexive] at cycle
  cases cycle

theorem StrictOrder.ne {before : Key → Key → Bool} (order : StrictOrder before)
    {first second : Key} (below : before first second = true) : first ≠ second := by
  rintro rfl
  rw [order.irreflexive] at below
  cases below

/-- Each key is strictly above the ones before it. -/
def Increasing (before : Key → Key → Bool) (terms : Terms Key K) : Prop :=
  terms.Pairwise fun left right => before left.1 right.1 = true

/-- Terms with increasing keys and without zero coefficients. -/
structure Canonical [Zero K] [BEq K] (before : Key → Key → Bool) (terms : Terms Key K) :
    Prop where
  increasing : Increasing before terms
  nonzero : ∀ term ∈ terms, (term.2 != 0) = true

/-! ## Summing at a key -/

section Sums

variable [DecidableEq Key] [Zero K] [Add K] {before : Key → Key → Bool}

theorem key_of_mem_addAt {key : Key} {coefficient : K} :
    ∀ {terms : Terms Key K}, ∀ term ∈ addAt before key coefficient terms,
      term.1 = key ∨ term.1 ∈ terms.map Prod.fst
  | [], term, member => by
    rw [addAt, List.mem_singleton] at member
    exact .inl (congrArg Prod.fst member)
  | (other, sum) :: terms, term, member => by
    rw [addAt] at member
    split at member
    · rcases List.mem_cons.mp member with first | later
      · exact .inl (congrArg Prod.fst first)
      · exact .inr (List.mem_map_of_mem later)
    · split at member
      · rcases List.mem_cons.mp member with rfl | later
        · exact .inr List.mem_cons_self
        · exact .inr (List.mem_cons_of_mem _ (List.mem_map_of_mem later))
      · rcases List.mem_cons.mp member with first | later
        · exact .inr (List.mem_cons.mpr (.inl (congrArg Prod.fst first)))
        · exact (key_of_mem_addAt term later).imp id fun kept => List.mem_cons_of_mem _ kept

theorem addAt_increasing (order : StrictOrder before) (key : Key) (coefficient : K) :
    ∀ {terms : Terms Key K}, Increasing before terms →
      Increasing before (addAt before key coefficient terms)
  | [], _ => List.pairwise_singleton _ _
  | (other, sum) :: terms, increasing => by
    obtain ⟨above, rest⟩ := List.pairwise_cons.mp increasing
    rw [addAt]
    by_cases below : before key other = true
    · rw [if_pos below]
      refine List.pairwise_cons.mpr ⟨?_, increasing⟩
      intro term member
      rcases List.mem_cons.mp member with rfl | later
      · exact below
      · exact order.transitive below (above term later)
    · rw [if_neg below]
      by_cases same : key = other
      · rw [if_pos same]
        exact List.pairwise_cons.mpr ⟨above, rest⟩
      · rw [if_neg same]
        refine List.pairwise_cons.mpr ⟨?_, addAt_increasing order key coefficient rest⟩
        intro term member
        rcases key_of_mem_addAt term member with added | kept
        · rw [added]
          exact order.total (eq_false_of_ne_true below) same
        · obtain ⟨old, oldMember, oldKey⟩ := List.mem_map.mp kept
          rw [← oldKey]
          exact above old oldMember

theorem addAt_above (order : StrictOrder before) {key : Key} (coefficient : K) :
    ∀ {terms : Terms Key K}, (∀ term ∈ terms, before term.1 key = true) →
      addAt before key coefficient terms = terms ++ [(key, 0 + coefficient)]
  | [], _ => rfl
  | (other, sum) :: terms, above => by
    have first := above (other, sum) List.mem_cons_self
    rw [addAt, if_neg (by rw [order.asymmetric first]; decide), if_neg (order.ne first).symm,
      addAt_above order coefficient fun term member => above term (List.mem_cons_of_mem _ member)]
    rfl

/-- The sums of terms, added to sums that are there already. -/
theorem foldl_addAt_increasing (order : StrictOrder before) :
    ∀ (terms : Terms Key K) {sums : Terms Key K}, Increasing before sums →
      Increasing before (terms.foldl (fun sums term => addAt before term.1 term.2 sums) sums)
  | [], _, increasing => increasing
  | term :: terms, _, increasing =>
    foldl_addAt_increasing order terms (addAt_increasing order term.1 term.2 increasing)

theorem key_of_mem_foldl_addAt :
    ∀ (terms : Terms Key K) {sums : Terms Key K},
      ∀ sum ∈ terms.foldl (fun sums term => addAt before term.1 term.2 sums) sums,
        sum.1 ∈ terms.map Prod.fst ∨ sum.1 ∈ sums.map Prod.fst
  | [], _, sum, member => .inr (List.mem_map_of_mem member)
  | term :: terms, sums, sum, member => by
    rcases key_of_mem_foldl_addAt terms sum member with later | earlier
    · exact .inl (List.mem_cons_of_mem _ later)
    · obtain ⟨old, oldMember, oldKey⟩ := List.mem_map.mp earlier
      rw [← oldKey]
      rcases key_of_mem_addAt old oldMember with added | kept
      · exact .inl (List.mem_cons.mpr (.inl added))
      · exact .inr kept

/-- Terms whose keys go on increasing are appended one by one. -/
theorem foldl_addAt_append (order : StrictOrder before) :
    ∀ (terms sums : Terms Key K), Increasing before (sums ++ terms) →
      (∀ term ∈ terms, 0 + term.2 = term.2) →
      terms.foldl (fun sums term => addAt before term.1 term.2 sums) sums = sums ++ terms
  | [], sums, _, _ => (List.append_nil sums).symm
  | term :: terms, sums, increasing, exact => by
    have below : ∀ sum ∈ sums, before sum.1 term.1 = true := fun sum member =>
      (List.pairwise_append.mp increasing).2.2 sum member term List.mem_cons_self
    have grown : sums ++ term :: terms = (sums ++ [term]) ++ terms := by
      rw [List.append_assoc, List.singleton_append]
    rw [List.foldl_cons, addAt_above order term.2 below, exact term List.mem_cons_self, grown]
    exact foldl_addAt_append order terms (sums ++ [term]) (grown ▸ increasing)
      fun later member => exact later (List.mem_cons_of_mem _ member)

end Sums

/-! ## The canonical form -/

section Merged

variable [Zero K] [BEq K] {before : Key → Key → Bool}

/-- Terms may be dropped. -/
theorem Canonical.filter {terms : Terms Key K} (canonical : Canonical before terms)
    (keep : Key × K → Bool) : Canonical before (terms.filter keep) :=
  ⟨canonical.increasing.filter keep,
    fun term member => canonical.nonzero term (List.mem_of_mem_filter member)⟩

theorem Canonical.nonzero_eq {terms : Terms Key K} (canonical : Canonical before terms) :
    Terms.nonzero terms = terms :=
  List.filter_eq_self.mpr canonical.nonzero

variable [DecidableEq Key] [Add K]

theorem merged_canonical (order : StrictOrder before) (terms : Terms Key K) :
    Canonical before (merged before terms) :=
  ⟨(foldl_addAt_increasing order _ List.Pairwise.nil).filter _,
    fun _ member => (List.mem_filter.mp member).2⟩

theorem key_of_mem_merged {terms : Terms Key K} {term : Key × K}
    (member : term ∈ merged before terms) : term.1 ∈ terms.map Prod.fst := by
  have summed := List.mem_of_mem_filter member
  rcases key_of_mem_foldl_addAt _ term summed with given | started
  · obtain ⟨old, oldMember, oldKey⟩ := List.mem_map.mp given
    rw [← oldKey]
    exact List.mem_map_of_mem (List.mem_of_mem_filter oldMember)
  · exact absurd started List.not_mem_nil

theorem merged_of_canonical (order : StrictOrder before)
    (zeroAdd : ∀ value : K, (value == 0) = false → 0 + value = value) {terms : Terms Key K}
    (canonical : Canonical before terms) : merged before terms = terms := by
  unfold merged
  rw [canonical.nonzero_eq, foldl_addAt_append order terms [] canonical.increasing,
    List.nil_append, canonical.nonzero_eq]
  intro term member
  have notZero := canonical.nonzero term member
  rw [bne, Bool.not_eq_true'] at notZero
  exact zeroAdd term.2 notZero

end Merged

end Terms

/-! ## The orders of keys -/

theorem VariableId.strictOrder : Terms.StrictOrder VariableId.before where
  irreflexive key := by simp [before]
  transitive below above := by
    simp only [before, decide_eq_true_eq] at *
    omega
  total := by
    rintro ⟨first⟩ ⟨second⟩ notBelow different
    simp only [before, decide_eq_true_eq, decide_eq_false_iff_not] at *
    have : first ≠ second := fun same => different (congrArg EntityId.mk same)
    omega

theorem VariablePair.before_iff (left right : VariablePair) :
    before left right = true ↔ left.1.number < right.1.number ∨
      (left.1.number = right.1.number ∧ left.2.number < right.2.number) := by
  obtain ⟨⟨first⟩, ⟨second⟩⟩ := left
  obtain ⟨⟨third⟩, ⟨fourth⟩⟩ := right
  simp [before]

theorem VariablePair.strictOrder : Terms.StrictOrder VariablePair.before where
  irreflexive key := by
    rw [← Bool.not_eq_true, before_iff]
    omega
  transitive := by
    intro first second third below above
    rw [before_iff] at *
    omega
  total := by
    rintro ⟨⟨first⟩, ⟨second⟩⟩ ⟨⟨third⟩, ⟨fourth⟩⟩ notBelow different
    rw [← Bool.not_eq_true, before_iff] at notBelow
    have apart : ¬ (first = third ∧ second = fourth) := by
      rintro ⟨rfl, rfl⟩
      exact different rfl
    rw [before_iff]
    dsimp only at *
    omega

theorem VariablePair.ordered_le (pair : VariablePair) :
    (ordered pair).1.number ≤ (ordered pair).2.number := by
  unfold ordered
  split
  · assumption
  · dsimp only
    omega

theorem VariablePair.ordered_eq {pair : VariablePair} (inOrder : pair.1.number ≤ pair.2.number) :
    ordered pair = pair :=
  if_pos inOrder

theorem VariablePair.mem_ordered {pair : VariablePair} {id : VariableId}
    (member : id = (ordered pair).1 ∨ id = (ordered pair).2) : id = pair.1 ∨ id = pair.2 := by
  unfold ordered at member
  split at member
  · exact member
  · exact member.symm

namespace Expr

variable {K : Type}

/-- An expression in canonical form; its constant is free. -/
structure Canonical [Zero K] [BEq K] (expr : Expr K) : Prop where
  linear : Terms.Canonical VariableId.before expr.linear
  quadratic : Terms.Canonical VariablePair.before expr.quadratic
  inOrder : ∀ term ∈ expr.quadratic, term.1.1.number ≤ term.1.2.number

theorem mem_vars {expr : Expr K} {id : VariableId} :
    id ∈ expr.vars ↔ (∃ term ∈ expr.linear, id = term.1) ∨
      ∃ term ∈ expr.quadratic, id = term.1.1 ∨ id = term.1.2 := by
  unfold vars
  rw [List.mem_append, List.mem_map, List.mem_flatMap]
  simp only [List.mem_cons, List.not_mem_nil, or_false, eq_comm]

section Normalized

variable [Zero K] [BEq K] [Add K]

theorem normalized_canonical (expr : Expr K) : expr.normalized.Canonical where
  linear := Terms.merged_canonical VariableId.strictOrder _
  quadratic := Terms.merged_canonical VariablePair.strictOrder _
  inOrder term member := by
    obtain ⟨pair, pairMember, key⟩ := List.mem_map.mp (Terms.key_of_mem_merged member)
    obtain ⟨given, _, rfl⟩ := List.mem_map.mp pairMember
    rw [← key]
    exact VariablePair.ordered_le given.1

/-- The canonical form mentions no new variable. -/
theorem mem_vars_normalized {expr : Expr K} {id : VariableId} (member : id ∈ expr.normalized.vars) :
    id ∈ expr.vars := by
  rw [mem_vars] at *
  rcases member with ⟨term, termMember, rfl⟩ | ⟨term, termMember, side⟩
  · obtain ⟨given, givenMember, key⟩ := List.mem_map.mp (Terms.key_of_mem_merged termMember)
    exact .inl ⟨given, givenMember, key.symm⟩
  · obtain ⟨pair, pairMember, key⟩ := List.mem_map.mp (Terms.key_of_mem_merged termMember)
    obtain ⟨given, givenMember, rfl⟩ := List.mem_map.mp pairMember
    rw [← key] at side
    exact .inr ⟨given, givenMember, VariablePair.mem_ordered side⟩

theorem normalized_of_canonical
    (zeroAdd : ∀ value : K, (value == 0) = false → 0 + value = value) {expr : Expr K}
    (canonical : expr.Canonical) : expr.normalized = expr := by
  have ordered : (expr.quadratic.map fun term => (VariablePair.ordered term.1, term.2)) =
      expr.quadratic := by
    refine (List.map_congr_left fun term member => ?_).trans (List.map_id _)
    rw [VariablePair.ordered_eq (canonical.inOrder term member)]
    rfl
  unfold normalized
  rw [ordered, Terms.merged_of_canonical VariableId.strictOrder zeroAdd canonical.linear,
    Terms.merged_of_canonical VariablePair.strictOrder zeroAdd canonical.quadratic]

end Normalized

theorem Canonical.withoutVariable [Zero K] [BEq K] {expr : Expr K} (canonical : expr.Canonical)
    (id : VariableId) : (expr.withoutVariable id).Canonical where
  linear := canonical.linear.filter _
  quadratic := canonical.quadratic.filter _
  inOrder term member := canonical.inOrder term (List.mem_of_mem_filter member)

theorem mem_vars_withoutVariable {expr : Expr K} {dropped id : VariableId}
    (member : id ∈ (expr.withoutVariable dropped).vars) : id ∈ expr.vars ∧ id ≠ dropped := by
  rw [mem_vars] at *
  rcases member with ⟨term, termMember, rfl⟩ | ⟨term, termMember, side⟩
  · obtain ⟨kept, different⟩ := List.mem_filter.mp termMember
    exact ⟨.inl ⟨term, kept, rfl⟩, bne_iff_ne.mp different⟩
  · obtain ⟨kept, different⟩ := List.mem_filter.mp termMember
    simp only [VariablePair.mentions, Bool.not_eq_true', Bool.or_eq_false_iff, beq_eq_false_iff_ne]
      at different
    refine ⟨.inr ⟨term, kept, side⟩, ?_⟩
    rcases side with rfl | rfl
    · exact different.1
    · exact different.2

/-! ## Degrees -/

theorem degree_le_of_terms {left right : Expr K}
    (linear : right.linear = [] → left.linear = [])
    (quadratic : right.quadratic = [] → left.quadratic = []) : left.degree ≤ right.degree := by
  unfold degree
  by_cases rightQuadratic : right.quadratic = []
  · by_cases rightLinear : right.linear = []
    · simp [rightQuadratic, rightLinear, linear, quadratic]
    · simp only [rightQuadratic, quadratic, rightLinear, ne_eq, not_true_eq_false, if_false,
        not_false_eq_true, if_true]
      split <;> omega
  · simp only [rightQuadratic, ne_eq, not_false_eq_true, if_true]
    split
    · omega
    · split <;> omega

theorem degree_normalized_le [Zero K] [BEq K] [Add K] (expr : Expr K) :
    expr.normalized.degree ≤ expr.degree := by
  refine degree_le_of_terms (fun empty => ?_) fun empty => ?_
  · unfold normalized
    rw [empty]
    rfl
  · unfold normalized
    rw [empty]
    rfl

theorem degree_withoutVariable_le (expr : Expr K) (id : VariableId) :
    (expr.withoutVariable id).degree ≤ expr.degree := by
  refine degree_le_of_terms (fun empty => ?_) fun empty => ?_
  · unfold withoutVariable
    rw [empty]
    rfl
  · unfold withoutVariable
    rw [empty]
    rfl

end Expr

end ConicModel
