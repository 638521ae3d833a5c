import ConicModel.Expr.Basic

/-!
Contract: where an expression has a value.

Owns:
- the fact that an expression has a value at a point exactly if every variable that it
  mentions has one;
- what carries over from the reads of variables to the evaluation that makes them.

Does not own: what the value is.
-/

namespace ConicModel.Expr

variable {K : Type} [Add K] [Mul K] (point : VariableId → Option K)

theorem evaluateLinear_isSome_iff (terms : Terms VariableId K) :
    ∀ total : K, (evaluateLinear point total terms).isSome = true ↔
      ∀ id ∈ terms.map Prod.fst, (point id).isSome = true := by
  induction terms with
  | nil => exact fun total => ⟨fun _ => nofun, fun _ => rfl⟩
  | cons term others inductionHypothesis =>
    obtain ⟨id, coefficient⟩ := term
    intro total
    have first : evaluateLinear point total ((id, coefficient) :: others) =
        (point id).bind fun x => evaluateLinear point (total + coefficient * x) others := rfl
    rw [first, List.map_cons, List.forall_mem_cons]
    cases point id with
    | none => simp
    | some x => simpa using inductionHypothesis (total + coefficient * x)

theorem evaluateQuadratic_isSome_iff (terms : Terms VariablePair K) :
    ∀ total : K, (evaluateQuadratic point total terms).isSome = true ↔
      ∀ id ∈ terms.flatMap fun term => [term.1.1, term.1.2], (point id).isSome = true := by
  induction terms with
  | nil => exact fun total => ⟨fun _ => nofun, fun _ => rfl⟩
  | cons term others inductionHypothesis =>
    obtain ⟨⟨left, right⟩, coefficient⟩ := term
    intro total
    have first : evaluateQuadratic point total (((left, right), coefficient) :: others) =
        (point left).bind fun x => (point right).bind fun y =>
          evaluateQuadratic point (total + coefficient * x * y) others := rfl
    rw [first, List.flatMap_cons, List.forall_mem_append, List.forall_mem_cons,
      List.forall_mem_singleton]
    cases point left with
    | none => simp
    | some x =>
      cases point right with
      | none => simp
      | some y => simpa using inductionHypothesis (total + coefficient * x * y)

theorem evaluate_isSome_iff (expr : Expr K) :
    (expr.evaluate point).isSome = true ↔ ∀ id ∈ expr.vars, (point id).isSome = true := by
  have parts : expr.evaluate point =
      (evaluateLinear point expr.constant expr.linear).bind fun total =>
        evaluateQuadratic point total expr.quadratic := rfl
  have linear := evaluateLinear_isSome_iff point expr.linear expr.constant
  unfold vars
  rw [parts, List.forall_mem_append, ← linear]
  cases evaluateLinear point expr.constant expr.linear with
  | none => simp
  | some total => simpa using evaluateQuadratic_isSome_iff point expr.quadratic total

/-! ## Evaluations that read -/

/-- What holds of every read and of every total, and of an action whose parts it holds of, holds
of an evaluation. -/
theorem evaluateWith_of_reads {m : Type → Type} [Monad m] {holds : m K → Prop}
    {value : VariableId → m K} (total : ∀ total : K, holds (pure total))
    (part : ∀ {first : m K} {next : K → m K}, holds first → (∀ x, holds (next x)) →
      holds (first >>= next))
    (reads : ∀ id, holds (value id)) (expr : Expr K) : holds (expr.evaluateWith value) := by
  have linear : ∀ (terms : Terms VariableId K) (sum : K),
      holds (evaluateLinear value sum terms) := by
    intro terms
    induction terms with
    | nil => exact total
    | cons term others inductionHypothesis =>
      exact fun sum => part (reads _) fun _ => inductionHypothesis _
  have quadratic : ∀ (terms : Terms VariablePair K) (sum : K),
      holds (evaluateQuadratic value sum terms) := by
    intro terms
    induction terms with
    | nil => exact total
    | cons term others inductionHypothesis =>
      exact fun sum => part (reads _) fun _ => part (reads _) fun _ => inductionHypothesis _
  exact part (linear _ _) fun sum => quadratic _ sum

end ConicModel.Expr
