import ConicModel.Proofs.Session.Action
import ConicModel.Session.Results

/-!
Contract: actions on two links that end alike as long as the solvers answer alike.

Owns:
- `Accords`, which says that two actions return related values, or are refused for one cause;
- one lemma for each way in which actions are put together;
- `Link.Linked`, two links whose instances hold the same copy, and what is read from both.

Does not own: how the solvers of two sessions differ.

The two sides may have solvers of different kinds, so their states are related by whatever
relation the calls of the solvers keep.  Reports are on neither side of it.
-/

namespace ConicModel

/-! ## Two actions -/

/-- Wherever the states are related, both actions return, with related values, or both are refused
for one cause; and the states after them are related. -/
def Accords {ε σ τ α β : Type} (related : σ → τ → Prop) (first : EStateM ε σ α)
    (second : EStateM ε τ β) (same : α → β → Prop) : Prop :=
  ∀ left right, related left right →
    match first left, second right with
    | .ok value left', .ok other right' => same value other ∧ related left' right'
    | .error cause left', .error cause' right' => cause = cause' ∧ related left' right'
    | _, _ => False

section Accords

variable {ε σ τ α β γ δ : Type} {related : σ → τ → Prop} {first : EStateM ε σ α}
  {second : EStateM ε τ β} {same : α → β → Prop}

/-- The ways in which two actions in accord end. -/
theorem Accords.cases (accords : Accords related first second same) {left : σ} {right : τ}
    (start : related left right) :
    (∃ value left' other right', first left = .ok value left' ∧ second right = .ok other right' ∧
        same value other ∧ related left' right') ∨
      ∃ cause left' right', first left = .error cause left' ∧ second right = .error cause right' ∧
        related left' right' := by
  have ended := accords left right start
  cases firstEnd : first left with
  | ok value left' =>
    cases secondEnd : second right with
    | ok other right' =>
      rw [firstEnd, secondEnd] at ended
      exact .inl ⟨value, left', other, right', rfl, rfl, ended⟩
    | error cause right' =>
      rw [firstEnd, secondEnd] at ended
      exact ended.elim
  | error cause left' =>
    cases secondEnd : second right with
    | ok other right' =>
      rw [firstEnd, secondEnd] at ended
      exact ended.elim
    | error cause' right' =>
      rw [firstEnd, secondEnd] at ended
      obtain ⟨rfl, still⟩ := ended
      exact .inr ⟨cause, left', right', rfl, rfl, still⟩

theorem Accords.mono {weaker : α → β → Prop} (accords : Accords related first second same)
    (weaken : ∀ value other, same value other → weaker value other) :
    Accords related first second weaker := by
  intro left right start
  obtain ⟨value, left', other, right', firstEnd, secondEnd, alike, still⟩ |
    ⟨cause, left', right', firstEnd, secondEnd, still⟩ := accords.cases start
  · rw [firstEnd, secondEnd]
    exact ⟨weaken value other alike, still⟩
  · rw [firstEnd, secondEnd]
    exact ⟨rfl, still⟩

theorem accords_refl (action : EStateM ε σ α) : Accords Eq action action Eq := by
  rintro state _ rfl
  cases action state <;> exact ⟨rfl, rfl⟩

theorem accords_of_ok
    (done : ∀ left right, related left right → ∃ value left' other right',
      first left = .ok value left' ∧ second right = .ok other right' ∧
        same value other ∧ related left' right') :
    Accords related first second same := by
  intro left right start
  obtain ⟨value, left', other, right', firstEnd, secondEnd, ended⟩ := done left right start
  rw [firstEnd, secondEnd]
  exact ended

theorem accords_pure {value : α} {other : β} (alike : same value other) :
    Accords related (pure value : EStateM ε σ α) (pure other : EStateM ε τ β) same :=
  fun _ _ start => ⟨alike, start⟩

theorem accords_throw (cause : ε) :
    Accords related (throw cause : EStateM ε σ α) (throw cause : EStateM ε τ β) same :=
  fun _ _ start => ⟨rfl, start⟩

theorem accords_bind {next : α → EStateM ε σ γ} {next' : β → EStateM ε τ δ}
    {sameNext : γ → δ → Prop} (accords : Accords related first second same)
    (each : ∀ value other, same value other →
      Accords related (next value) (next' other) sameNext) :
    Accords related (first >>= next) (second >>= next') sameNext := by
  intro left right start
  obtain ⟨value, left', other, right', firstEnd, secondEnd, alike, still⟩ |
    ⟨cause, left', right', firstEnd, secondEnd, still⟩ := accords.cases start
  · rw [bind_of_ok firstEnd, bind_of_ok secondEnd]
    exact each value other alike left' right' still
  · rw [bind_of_error firstEnd, bind_of_error secondEnd]
    exact ⟨rfl, still⟩

theorem accords_ofState {next : σ → EStateM ε σ γ} {next' : τ → EStateM ε τ δ}
    {sameNext : γ → δ → Prop}
    (each : ∀ left right, related left right →
      Accords related (next left) (next' right) sameNext) :
    Accords related (get >>= next) (get >>= next') sameNext :=
  fun left right start => each left right start left right start

end Accords

/-! ## Two links -/

namespace Link

open Session (Error)

variable {World Factory Instance World' Factory' Instance' α β : Type}

/-- Two links without faults: each has a live instance with a copy in which entities have the same
indices, and the worlds of the solvers agree. -/
structure Linked (agree : World → World' → Prop) (target : Instance) (target' : Instance')
    (map : IndexMap) (left : Link World Factory Instance)
    (right : Link World' Factory' Instance') : Prop where
  world : agree left.world right.world
  cached : left.mode.isCached = true
  cached' : right.mode.isCached = true
  live : left.live = some target
  live' : right.live = some target'
  copied : left.map = some map
  copied' : right.map = some map

variable {agree : World → World' → Prop} {target : Instance} {target' : Instance'}
  {map : IndexMap}

theorem Linked.withWorld {left : Link World Factory Instance}
    {right : Link World' Factory' Instance'} (linked : Linked agree target target' map left right)
    {world : World} {world' : World'} (agreed : agree world world') :
    Linked agree target target' map { left with world := world }
      { right with world := world' } :=
  { linked with world := agreed }

theorem accords_call {reply : Reply World α} {reply' : Reply World' β} {same : α → β → Prop}
    (replies : Accords agree reply reply' same) :
    Accords (Linked agree target target' map) (call reply : Action World Factory Instance α)
      (call reply' : Action World' Factory' Instance' β) same := by
  intro left right linked
  unfold call
  obtain ⟨value, world, other, world', firstEnd, secondEnd, alike, agreed⟩ |
    ⟨cause, world, world', firstEnd, secondEnd, agreed⟩ := replies.cases linked.world
  · rw [firstEnd, secondEnd]
    exact ⟨alike, linked.withWorld agreed⟩
  · rw [firstEnd, secondEnd]
    exact ⟨rfl, linked.withWorld agreed⟩

theorem accords_interpret (reading : Except SolverError α) :
    Accords (Linked agree target target' map)
      (interpret reading : Action World Factory Instance α)
      (interpret reading : Action World' Factory' Instance' α) Eq := by
  cases reading with
  | ok value => exact accords_pure rfl
  | error cause => exact accords_throw _

variable {first : Solver World Factory Instance} {second : Solver World' Factory' Instance'}

section Read

variable {wanted : Attribute}
  (replies : Accords agree (first.get target wanted) (second.get target' wanted) Eq)
include replies

theorem accords_read (cast : Attribute → AttributeValue → Except SolverError α) :
    Accords (Linked agree target target' map) (read first target wanted cast)
      (read second target' wanted cast) Eq := by
  refine accords_bind (accords_call replies) ?_
  rintro value _ rfl
  exact accords_interpret _

theorem accords_read? (cast : Attribute → AttributeValue → Except SolverError α) :
    Accords (Linked agree target target' map) (read? first target wanted cast)
      (read? second target' wanted cast) Eq := by
  intro left right linked
  unfold read?
  obtain ⟨value, world, _, world', firstEnd, secondEnd, rfl, agreed⟩ |
    ⟨cause, world, world', firstEnd, secondEnd, agreed⟩ := replies.cases linked.world
  · rw [firstEnd, secondEnd]
    have interpreted : Accords (Linked agree target target' map)
        (some <$> interpret (cast wanted value) : Action World Factory Instance (Option α))
        (some <$> interpret (cast wanted value) : Action World' Factory' Instance' (Option α))
        Eq :=
      accords_bind (accords_interpret _) fun _ _ same => accords_pure (congrArg some same)
    exact interpreted _ _ (linked.withWorld agreed)
  · rw [firstEnd, secondEnd]
    dsimp only
    by_cases unsupported : cause.isUnsupported = true
    · rw [if_pos unsupported, if_pos unsupported]
      exact ⟨rfl, linked.withWorld agreed⟩
    · rw [if_neg unsupported, if_neg unsupported]
      exact ⟨rfl, linked.withWorld agreed⟩

theorem accords_resultStatus :
    Accords (Linked agree target target' map) (resultStatus first target wanted)
      (resultStatus second target' wanted) Eq :=
  accords_bind (accords_read? replies _) fun _ _ same => accords_pure (same ▸ rfl)

theorem accords_floatOf (status : ResultStatus) :
    Accords (Linked agree target target' map) (floatOf first target status wanted)
      (floatOf second target' status wanted) Eq := by
  unfold floatOf
  split
  · exact accords_read? replies _
  · exact accords_pure rfl

end Read

theorem accords_rawStatus
    (replies : Accords agree (first.get target .rawStatusString)
      (second.get target' .rawStatusString) Eq) :
    Accords (Linked agree target target' map) (rawStatus first target) (rawStatus second target')
      Eq :=
  accords_bind (accords_read? replies _) fun _ _ same => accords_pure (same ▸ rfl)

section Facts

variable {except : ConstraintIndex}
  (replies : ∀ wanted, wanted ≠ .constraintDual except →
    Accords agree (first.get target wanted) (second.get target' wanted) Eq)
include replies

/-- No fact of a solve is read from a dual value. -/
theorem accords_summary :
    Accords (Linked agree target target' map) (summary first target) (summary second target')
      Eq := by
  apply accords_bind (accords_read (replies .terminationStatus nofun) _)
  rintro termination _ rfl
  apply accords_bind (accords_resultStatus (replies .primalStatus nofun))
  rintro primalStatus _ rfl
  apply accords_bind (accords_resultStatus (replies .dualStatus nofun))
  rintro dualStatus _ rfl
  apply accords_bind (accords_read? (replies .resultCount nofun) _)
  rintro resultCount _ rfl
  apply accords_bind (accords_floatOf (replies .objectiveValue nofun) _)
  rintro objectiveValue _ rfl
  apply accords_bind (accords_floatOf (replies .dualObjectiveValue nofun) _)
  rintro dualObjectiveValue _ rfl
  apply accords_bind (accords_rawStatus (replies .rawStatusString nofun))
  rintro rawStatus _ rfl
  apply accords_bind (accords_read? (replies .objectiveBound nofun) _)
  rintro objectiveBound _ rfl
  apply accords_bind (accords_read? (replies .solveTimeSec nofun) _)
  rintro solveTime _ rfl
  exact accords_pure rfl

theorem accords_primals : ∀ ids : List VariableId,
    Accords (Linked agree target target' map) (primals first target map ids)
      (primals second target' map ids) Eq
  | [] => accords_pure rfl
  | id :: others => by
    unfold primals
    cases map.vars.index? id with
    | none => exact accords_throw _
    | some index =>
      dsimp only
      apply accords_bind (accords_read (replies (.variablePrimal index) nofun) _)
      rintro value _ rfl
      apply accords_bind (accords_primals others)
      rintro values _ rfl
      exact accords_pure rfl

end Facts

end Link

end ConicModel
