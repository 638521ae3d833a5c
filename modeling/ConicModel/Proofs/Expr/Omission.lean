import ConicModel.Proofs.Expr.Canonical

/-!
Contract: the canonical form after some keys were left out.

Owns:
- the fact that terms whose keys are left out do not change the sums of the others;
- the canonical form of an expression without a variable.

Does not own: what the sums are.

Each key has a sum of its own, so leaving keys out before or after summing is the same.  No sum
is taken in another order, so this holds of floats.
-/

namespace ConicModel.Terms

variable {Key K : Type}

section Sums

variable [DecidableEq Key] [Zero K] [Add K] {before : Key → Key → Bool}

/-- Terms with a key that is left out may be added or not. -/
theorem filter_addAt_of_dropped {keep : Key → Bool} {key : Key} (dropped : keep key = false)
    (coefficient : K) : ∀ terms : Terms Key K,
    (addAt before key coefficient terms).filter (fun term => keep term.1) =
      terms.filter fun term => keep term.1
  | [] => by simp [addAt, dropped]
  | (other, sum) :: terms => by
    rw [addAt]
    by_cases below : before key other = true
    · simp [below, dropped]
    · rw [if_neg below]
      by_cases same : key = other
      · subst same
        simp [dropped]
      · rw [if_neg same, List.filter_cons, List.filter_cons,
          filter_addAt_of_dropped dropped coefficient terms]

theorem addAt_below {key : Key} (coefficient : K) :
    ∀ {terms : Terms Key K}, (∀ term ∈ terms, before key term.1 = true) →
      addAt before key coefficient terms = (key, 0 + coefficient) :: terms
  | [], _ => rfl
  | (other, sum) :: terms, below => by
    rw [addAt, if_pos (below (other, sum) List.mem_cons_self)]

/-- Adding at a key that is kept does not look at the keys that are left out. -/
theorem filter_addAt_of_kept (order : StrictOrder before) {keep : Key → Bool} {key : Key}
    (kept : keep key = true) (coefficient : K) : ∀ {terms : Terms Key K}, Increasing before terms →
    (addAt before key coefficient terms).filter (fun term => keep term.1) =
      addAt before key coefficient (terms.filter fun term => keep term.1)
  | [], _ => by simp [addAt, kept]
  | (other, sum) :: terms, increasing => by
    obtain ⟨above, rest⟩ := List.pairwise_cons.mp increasing
    by_cases below : before key other = true
    · have first : ∀ term ∈ ((other, sum) :: terms).filter (fun term => keep term.1),
          before key term.1 = true := by
        intro term member
        rcases List.mem_cons.mp (List.mem_of_mem_filter member) with rfl | later
        · exact below
        · exact order.transitive below (above term later)
      rw [addAt, if_pos below, addAt_below coefficient first, List.filter_cons, if_pos kept]
    · have inductionHypothesis := filter_addAt_of_kept order kept coefficient rest
      rw [addAt, if_neg below]
      by_cases same : key = other
      · subst same
        simp [kept, addAt, below]
      · rw [if_neg same, List.filter_cons, List.filter_cons, inductionHypothesis]
        -- Where the other key is left out, so is the place at which the walk passed it.
        by_cases otherKept : keep other = true
        · rw [if_pos otherKept, if_pos otherKept, addAt, if_neg below, if_neg same]
        · rw [if_neg otherKept, if_neg otherKept]

theorem filter_foldl_addAt (order : StrictOrder before) (keep : Key → Bool) :
    ∀ (terms : Terms Key K) {sums : Terms Key K}, Increasing before sums →
      (terms.foldl (fun sums term => addAt before term.1 term.2 sums) sums).filter
          (fun term => keep term.1) =
        (terms.filter fun term => keep term.1).foldl
          (fun sums term => addAt before term.1 term.2 sums) (sums.filter fun term => keep term.1)
  | [], _, _ => rfl
  | term :: terms, sums, increasing => by
    rw [List.foldl_cons,
      filter_foldl_addAt order keep terms (addAt_increasing order term.1 term.2 increasing)]
    by_cases kept : keep term.1 = true
    · rw [filter_addAt_of_kept order kept term.2 increasing, List.filter_cons, if_pos kept,
        List.foldl_cons]
    · rw [filter_addAt_of_dropped (Bool.eq_false_iff.mpr kept), List.filter_cons, if_neg kept]

end Sums

/-- Keys may be left out before or after terms are brought into canonical form. -/
theorem merged_filter [DecidableEq Key] [Zero K] [BEq K] [Add K] {before : Key → Key → Bool}
    (order : StrictOrder before) (keep : Key → Bool) (terms : Terms Key K) :
    merged before (terms.filter fun term => keep term.1) =
      (merged before terms).filter fun term => keep term.1 := by
  have nonzeroFirst : nonzero (terms.filter fun term => keep term.1) =
      (nonzero terms).filter fun term => keep term.1 := List.filter_comm _ _ _
  have summed := filter_foldl_addAt order keep (nonzero terms)
    (List.Pairwise.nil : Increasing before ([] : Terms Key K))
  rw [List.filter_nil] at summed
  unfold merged
  rw [nonzeroFirst, ← summed]
  exact List.filter_comm _ _ _

end ConicModel.Terms

namespace ConicModel

variable {K : Type}

/-- An expression without the variable is as it was where the variable does not occur. -/
theorem Expr.withoutVariable_of_absent {expr : Expr K} {id : VariableId}
    (absent : id ∉ expr.vars) : expr.withoutVariable id = expr := by
  rw [mem_vars, not_or] at absent
  obtain ⟨linear, quadratic⟩ := absent
  have allLinear : expr.linear.filter (fun term => term.1 != id) = expr.linear := by
    refine List.filter_eq_self.mpr fun term member => bne_iff_ne.mpr ?_
    exact fun same => linear ⟨term, member, same.symm⟩
  have allQuadratic : expr.quadratic.filter (fun term => !term.1.mentions id) = expr.quadratic := by
    refine List.filter_eq_self.mpr fun term member => ?_
    have neither := not_or.mp fun side => quadratic ⟨term, member, side⟩
    simp [VariablePair.mentions, Ne.symm neither.1, Ne.symm neither.2]
  unfold withoutVariable
  rw [allLinear, allQuadratic]

theorem VariablePair.mentions_ordered (id : VariableId) (pair : VariablePair) :
    (ordered pair).mentions id = pair.mentions id := by
  unfold ordered
  split
  · rfl
  · exact Bool.or_comm _ _

/-- The canonical form of an expression without a variable is the canonical form without the
variable. -/
theorem Expr.normalized_withoutVariable [Zero K] [BEq K] [Add K] (expr : Expr K)
    (id : VariableId) :
    (expr.withoutVariable id).normalized = expr.normalized.withoutVariable id := by
  have linear := Terms.merged_filter VariableId.strictOrder (fun key => key != id) expr.linear
  have quadratic := Terms.merged_filter VariablePair.strictOrder
    (fun pair => !pair.mentions id)
    (expr.quadratic.map fun term => (VariablePair.ordered term.1, term.2))
  have ordered : ((expr.quadratic.map fun term => (VariablePair.ordered term.1, term.2)).filter
      fun term => !term.1.mentions id) =
        (expr.quadratic.filter fun term => !term.1.mentions id).map
          fun term => (VariablePair.ordered term.1, term.2) := by
    rw [List.filter_map]
    congr 1
    apply List.filter_congr
    intro term _
    simp [VariablePair.mentions_ordered]
  unfold withoutVariable normalized
  rw [linear, ← quadratic, ordered]

end ConicModel
