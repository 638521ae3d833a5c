import Mathlib.Logic.Relation
import Mathlib.Order.Defs.Unbundled

/-!
Contract: statements about actions that may be refused.

Owns:
- `Ends`, which says how an action ends from one state, refusals included;
- `Moves`, which relates the states before and after an action, and `Preserves`, the relation
  that keeps a property;
- `Blames`, which bounds the causes of refusals;
- one lemma for each way in which actions are put together.

Does not own: any particular action.

A refusal keeps the state that was reached, so a statement about an action has to
speak of both ways in which it can end.
-/

namespace ConicModel

variable {ε σ α β : Type}

/-- The state after an action, whether or not it was refused. -/
def stateAfter (action : EStateM ε σ α) (state : σ) : σ :=
  match action state with
  | .ok _ after => after
  | .error _ after => after

/-- What holds of the value and the state after it, or of the cause of a refusal and the
state after that. -/
def Ends (action : EStateM ε σ α) (state : σ) (returned : α → σ → Prop)
    (refused : ε → σ → Prop) : Prop :=
  match action state with
  | .ok value after => returned value after
  | .error cause after => refused cause after

section Ends

variable {action : EStateM ε σ α} {state : σ} {returned : α → σ → Prop} {refused : ε → σ → Prop}

theorem Ends.of_ok {value : α} {after : σ} (ends : Ends action state returned refused)
    (done : action state = .ok value after) : returned value after := by
  unfold Ends at ends
  rw [done] at ends
  exact ends

theorem Ends.of_error {cause : ε} {after : σ} (ends : Ends action state returned refused)
    (failed : action state = .error cause after) : refused cause after := by
  unfold Ends at ends
  rw [failed] at ends
  exact ends

theorem Ends.mono {returned' : α → σ → Prop} {refused' : ε → σ → Prop}
    (ends : Ends action state returned refused)
    (ok : ∀ value after, returned value after → returned' value after)
    (error : ∀ cause after, refused cause after → refused' cause after) :
    Ends action state returned' refused' := by
  unfold Ends at ends ⊢
  cases ended : action state with
  | ok value after =>
    rw [ended] at ends
    exact ok value after ends
  | error cause after =>
    rw [ended] at ends
    exact error cause after ends

/-- Two statements about one action hold together. -/
theorem Ends.and {returned' : α → σ → Prop} {refused' : ε → σ → Prop}
    (first : Ends action state returned refused) (second : Ends action state returned' refused') :
    Ends action state (fun value after => returned value after ∧ returned' value after)
      (fun cause after => refused cause after ∧ refused' cause after) := by
  unfold Ends at first second ⊢
  cases ended : action state with
  | ok value after =>
    rw [ended] at first second
    exact ⟨first, second⟩
  | error cause after =>
    rw [ended] at first second
    exact ⟨first, second⟩

theorem ends_of_ok {value : α} {after : σ} (done : action state = .ok value after)
    (holds : returned value after) : Ends action state returned refused := by
  unfold Ends
  rw [done]
  exact holds

theorem ends_of_error {cause : ε} {after : σ} (failed : action state = .error cause after)
    (holds : refused cause after) : Ends action state returned refused := by
  unfold Ends
  rw [failed]
  exact holds

theorem ends_eq : Ends action state (fun value after => action state = .ok value after)
    fun cause after => action state = .error cause after := by
  unfold Ends
  cases action state <;> rfl

/-- Where it does not matter how an action ends, the state after it is all there is to say. -/
theorem ends_stateAfter {holds : σ → Prop} :
    Ends action state (fun _ after => holds after) (fun _ after => holds after) ↔
      holds (stateAfter action state) := by
  unfold Ends stateAfter
  cases action state <;> exact Iff.rfl

theorem bind_of_ok {next : α → EStateM ε σ β} {value : α} {middle : σ}
    (done : action state = .ok value middle) : (action >>= next) state = next value middle := by
  show EStateM.bind action next state = _
  unfold EStateM.bind
  rw [done]

theorem bind_of_error {next : α → EStateM ε σ β} {cause : ε} {after : σ}
    (failed : action state = .error cause after) :
    (action >>= next) state = .error cause after := by
  show EStateM.bind action next state = _
  unfold EStateM.bind
  rw [failed]

theorem get_bind {next : σ → EStateM ε σ β} :
    ((get : EStateM ε σ σ) >>= next) state = next state state :=
  rfl

theorem ends_pure {value : α} (holds : returned value state) :
    Ends (pure value) state returned refused :=
  holds

theorem ends_throw {cause : ε} (holds : refused cause state) :
    Ends (throw cause : EStateM ε σ α) state returned refused :=
  holds

theorem ends_get {returned : σ → σ → Prop} (holds : returned state state) :
    Ends (get : EStateM ε σ σ) state returned refused :=
  holds

theorem ends_modify {change : σ → σ} {returned : Unit → σ → Prop}
    (holds : returned () (change state)) :
    Ends (modify change : EStateM ε σ Unit) state returned refused :=
  holds

/-- The second of two actions starts where the first one stops. -/
theorem ends_bind {next : α → EStateM ε σ β} {returned : β → σ → Prop}
    (first : Ends action state (fun value middle => Ends (next value) middle returned refused)
      refused) : Ends (action >>= next) state returned refused := by
  unfold Ends at first
  show match EStateM.bind action next state with
    | .ok value after => returned value after
    | .error cause after => refused cause after
  unfold EStateM.bind
  cases ended : action state with
  | ok value middle =>
    rw [ended] at first
    exact first
  | error cause middle =>
    rw [ended] at first
    exact first

/-- A statement about the value that the second of two actions returns, whatever the first
one does. -/
theorem ends_then {next : α → EStateM ε σ β} {property : β → Prop}
    (second : ∀ value middle,
      Ends (next value) middle (fun value _ => property value) fun _ _ => True) :
    Ends (action >>= next) state (fun value _ => property value) fun _ _ => True := by
  apply ends_bind
  unfold Ends
  cases action state with
  | ok value middle => exact second value middle
  | error cause middle => exact trivial

/-- The handler starts where the refused action stopped. -/
theorem ends_tryCatch {handle : ε → EStateM ε σ α}
    (body : Ends action state returned fun cause middle =>
      Ends (handle cause) middle returned refused) :
    Ends (tryCatch action handle) state returned refused := by
  unfold Ends at body
  show match EStateM.tryCatch action handle state with
    | .ok value after => returned value after
    | .error cause after => refused cause after
  unfold EStateM.tryCatch
  cases ended : action state with
  | ok value middle =>
    rw [ended] at body
    exact body
  | error cause middle =>
    rw [ended] at body
    exact body

/-- An action that runs another one on a part of the state ends as that one does. -/
theorem ends_within {ε' τ : Type} {inner : EStateM ε' τ α} {part : τ} (put : τ → σ)
    (embed : ε' → ε)
    (runs : action state = match inner part with
      | .ok value after => .ok value (put after)
      | .error cause after => .error (embed cause) (put after))
    (ends : Ends inner part (fun value after => returned value (put after))
      fun cause after => refused (embed cause) (put after)) :
    Ends action state returned refused := by
  unfold Ends at *
  rw [runs]
  cases ended : inner part with
  | ok value after =>
    rw [ended] at ends
    exact ends
  | error cause after =>
    rw [ended] at ends
    exact ends

end Ends

/-! ## Relations between the states before and after -/

def Preserves (holds : σ → Prop) (before after : σ) : Prop :=
  holds before → holds after

instance (holds : σ → Prop) : IsPreorder σ (Preserves holds) where
  refl _ held := held
  trans _ _ _ first second held := second (first held)

/-- Whether the states before and after an action are related, also where it is refused. -/
def Moves (related : σ → σ → Prop) (action : EStateM ε σ α) : Prop :=
  ∀ state, Ends action state (fun _ after => related state after) fun _ after => related state after

section Moves

variable {related : σ → σ → Prop} {action : EStateM ε σ α}

theorem Moves.stateAfter (moves : Moves related action) (state : σ) :
    related state (stateAfter action state) :=
  ends_stateAfter.mp (moves state)

/-- An action that preserves a property ends where it holds. -/
theorem Moves.preserved {holds : σ → Prop} (moves : Moves (Preserves holds) action) {state : σ}
    (held : holds state) :
    Ends action state (fun _ after => holds after) fun _ after => holds after :=
  (moves state).mono (fun _ _ preserves => preserves held) fun _ _ preserves => preserves held

theorem Moves.mono {wider : σ → σ → Prop} (moves : Moves related action)
    (weaken : ∀ before after, related before after → wider before after) : Moves wider action :=
  fun state => (moves state).mono (fun _ after => weaken state after) fun _ after =>
    weaken state after

theorem moves_modify {change : σ → σ} (step : ∀ state, related state (change state)) :
    Moves related (modify change : EStateM ε σ Unit) :=
  fun state => ends_modify (step state)

variable [IsPreorder σ related]

theorem moves_pure (value : α) : Moves related (pure value : EStateM ε σ α) :=
  fun state => ends_pure (refl_of related state)

theorem moves_throw (cause : ε) : Moves related (throw cause : EStateM ε σ α) :=
  fun state => ends_throw (refl_of related state)

theorem moves_get : Moves related (get : EStateM ε σ σ) :=
  fun state => ends_get (refl_of related state)

theorem moves_bind {next : α → EStateM ε σ β} (first : Moves related action)
    (second : ∀ value, Moves related (next value)) : Moves related (action >>= next) := by
  intro state
  apply ends_bind
  refine (first state).mono ?_ fun _ _ moved => moved
  intro value middle moved
  exact (second value middle).mono (fun _ _ moved' => trans_of related moved moved')
    fun _ _ moved' => trans_of related moved moved'

theorem moves_map {change : α → β} (body : Moves related action) :
    Moves related (change <$> action) :=
  moves_bind body fun value => moves_pure (change value)

theorem moves_tryCatch {handle : ε → EStateM ε σ α} (body : Moves related action)
    (handler : ∀ cause, Moves related (handle cause)) :
    Moves related (tryCatch action handle) := by
  intro state
  apply ends_tryCatch
  refine (body state).mono (fun _ _ moved => moved) ?_
  intro cause middle moved
  exact (handler cause middle).mono (fun _ _ moved' => trans_of related moved moved')
    fun _ _ moved' => trans_of related moved moved'

theorem moves_forM {next : β → EStateM ε σ Unit} (each : ∀ item, Moves related (next item)) :
    ∀ items : List β, Moves related (items.forM next)
  | [] => moves_pure ()
  | item :: others => moves_bind (each item) fun _ => moves_forM each others

end Moves

/-! ## Causes of refusals -/

/-- Whether each refusal of an action, from whichever state, has a cause with a property. -/
def Blames (fits : ε → Prop) (action : EStateM ε σ α) : Prop :=
  ∀ state, Ends action state (fun _ _ => True) fun cause _ => fits cause

section Blames

variable {fits : ε → Prop} {action : EStateM ε σ α}

theorem Blames.mono {wider : ε → Prop} (blames : Blames fits action)
    (weaken : ∀ cause, fits cause → wider cause) : Blames wider action :=
  fun state => (blames state).mono (fun _ _ _ => trivial) fun cause _ => weaken cause

/-- An action has the refusals that it has. -/
theorem blames_any (action : EStateM ε σ α) : Blames (fun _ => True) action :=
  fun _ => ends_stateAfter.mpr trivial

theorem blames_pure (value : α) : Blames fits (pure value : EStateM ε σ α) :=
  fun _ => ends_pure trivial

theorem blames_throw {cause : ε} (fit : fits cause) :
    Blames fits (throw cause : EStateM ε σ α) :=
  fun _ => ends_throw fit

theorem blames_get : Blames fits (get : EStateM ε σ σ) :=
  fun _ => ends_get trivial

theorem blames_modify (change : σ → σ) : Blames fits (modify change : EStateM ε σ Unit) :=
  fun _ => ends_modify trivial

theorem blames_bind {next : α → EStateM ε σ β} (first : Blames fits action)
    (second : ∀ value, Blames fits (next value)) : Blames fits (action >>= next) :=
  fun state => ends_bind ((first state).mono (fun value middle _ => second value middle)
    fun _ _ fit => fit)

theorem blames_map {change : α → β} (body : Blames fits action) :
    Blames fits (change <$> action) :=
  blames_bind body fun value => blames_pure (change value)

/-- The handler sees the causes of the action, and its own are those that are left. -/
theorem blames_tryCatch {caught : ε → Prop} {handle : ε → EStateM ε σ α}
    (body : Blames caught action) (handler : ∀ cause, caught cause → Blames fits (handle cause)) :
    Blames fits (tryCatch action handle) :=
  fun state => ends_tryCatch ((body state).mono (fun _ _ _ => trivial)
    fun cause middle seen => handler cause seen middle)

theorem blames_forM {next : β → EStateM ε σ Unit} (each : ∀ item, Blames fits (next item)) :
    ∀ items : List β, Blames fits (items.forM next)
  | [] => blames_pure ()
  | item :: others => blames_bind (each item) fun _ => blames_forM each others

end Blames

end ConicModel
