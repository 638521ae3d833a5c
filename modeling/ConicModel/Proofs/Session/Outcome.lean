import ConicModel.Proofs.Session.Consultation
import ConicModel.Proofs.Session.Run

/-!
Contract: actions whose outcome is settled by what holds of the state.

Owns:
- `Comes`, which says to which outcome an action comes wherever a property holds;
- one lemma for each way in which actions are put together;
- runs of reads, which keep what consulting keeps.

Does not own: any particular property.

An action that only reads can be replaced by the same reading of the settled answers: the
outcome of the whole is put together from outcomes as the action is put together from actions.
-/

namespace ConicModel

variable {ε σ α β : Type}

/-- Wherever the property holds, the action comes to the outcome, and the property still
holds. -/
def Comes (holds : σ → Prop) (action : EStateM ε σ α) (outcome : Except ε α) : Prop :=
  ∀ state, holds state →
    Ends action state (fun value after => outcome = .ok value ∧ holds after)
      fun cause after => outcome = .error cause ∧ holds after

section Comes

variable {holds : σ → Prop} {action : EStateM ε σ α} {outcome : Except ε α}

theorem Comes.holds_after (comes : Comes holds action outcome) {state : σ} (held : holds state) :
    holds (stateAfter action state) :=
  ends_stateAfter.mp ((comes state held).mono (fun _ _ ended => ended.2) fun _ _ ended => ended.2)

/-- What an action comes to depends only on what it does where the property holds. -/
theorem Comes.congr {other : EStateM ε σ α} (comes : Comes holds other outcome)
    (same : ∀ state, holds state → action state = other state) : Comes holds action outcome := by
  intro state held
  have ended := comes state held
  unfold Ends at ended ⊢
  rwa [same state held]

theorem comes_of_ok {value : α} (done : ∀ state, holds state → action state = .ok value state) :
    Comes holds action (.ok value) := by
  intro state held
  unfold Ends
  rw [done state held]
  exact ⟨rfl, held⟩

theorem comes_of_error {cause : ε}
    (failed : ∀ state, holds state → action state = .error cause state) :
    Comes holds action (.error cause) := by
  intro state held
  unfold Ends
  rw [failed state held]
  exact ⟨rfl, held⟩

theorem comes_pure (value : α) : Comes holds (pure value : EStateM ε σ α) (.ok value) :=
  fun _ held => ends_pure ⟨rfl, held⟩

theorem comes_throw (cause : ε) : Comes holds (throw cause : EStateM ε σ α) (.error cause) :=
  fun _ held => ends_throw ⟨rfl, held⟩

theorem comes_bind {next : α → EStateM ε σ β} {later : α → Except ε β}
    (first : Comes holds action outcome)
    (second : ∀ value, outcome = .ok value → Comes holds (next value) (later value)) :
    Comes holds (action >>= next) (outcome >>= later) := by
  intro state held
  apply ends_bind
  refine (first state held).mono ?_ ?_
  · rintro value middle ⟨rfl, heldMiddle⟩
    exact second value rfl middle heldMiddle
  · rintro cause after ⟨rfl, heldAfter⟩
    exact ⟨rfl, heldAfter⟩

theorem comes_bind_of_ok {next : α → EStateM ε σ β} {value : α} {later : Except ε β}
    (first : Comes holds action (.ok value)) (second : Comes holds (next value) later) :
    Comes holds (action >>= next) later := by
  have composed : later = (.ok value : Except ε α) >>= fun _ => later := rfl
  rw [composed]
  refine comes_bind first fun _ same => ?_
  cases same
  exact second

theorem comes_bind_of_error {next : α → EStateM ε σ β} {cause : ε}
    (first : Comes holds action (.error cause)) :
    Comes holds (action >>= next) (.error cause : Except ε β) := by
  have composed : (.error cause : Except ε β) = (.error cause : Except ε α) >>= fun _ =>
      .error cause := rfl
  rw [composed]
  exact comes_bind first fun _ never => nomatch never

theorem comes_map {change : α → β} (body : Comes holds action outcome) :
    Comes holds (change <$> action) (outcome.map change) := by
  have mapped : outcome.map change = outcome >>= fun value => .ok (change value) := by
    cases outcome <;> rfl
  rw [mapped]
  exact comes_bind body fun value _ => comes_pure (change value)

theorem comes_ofState {next : σ → EStateM ε σ α}
    (each : ∀ state, holds state → Comes holds (next state) outcome) :
    Comes holds (get >>= next) outcome :=
  fun state held => ends_bind (ends_get (each state held state held))

theorem comes_tryCatch {handle : ε → EStateM ε σ α} {handled : ε → Except ε α}
    (body : Comes holds action outcome)
    (handler : ∀ cause, Comes holds (handle cause) (handled cause)) :
    Comes holds (tryCatch action handle) (tryCatch outcome handled) := by
  intro state held
  apply ends_tryCatch
  refine (body state held).mono ?_ ?_
  · rintro value after ⟨rfl, heldAfter⟩
    exact ⟨rfl, heldAfter⟩
  · rintro cause middle ⟨rfl, heldMiddle⟩
    exact handler cause middle heldMiddle

end Comes

namespace Session

variable {World Factory Instance : Type} {solver : Solver World Factory Instance}
  {holds : Session World Factory Instance → Prop} {session : Session World Factory Instance}

/-- What comes of an operation is what its action comes to. -/
theorem outcome_of_comes {operation : Operation Factory} {outcome : Except Error Answer}
    (comes : Comes holds (perform solver operation) outcome) (held : holds session) :
    (step solver session operation).outcome = outcome := by
  refine Step.of_ends (fun result _ => result = outcome) ?_
  refine (comes session held).mono ?_ ?_
  · rintro answer _ ⟨rfl, _⟩
    rfl
  · rintro cause _ ⟨rfl, _⟩
    rfl

/-- Reads keep whatever consulting the live instance keeps. -/
theorem holds_of_reads
    (kept : ∀ before after, Consults solver before after → holds before → holds after)
    (reads : List ResultRead) {session : Session World Factory Instance} (held : holds session) :
    holds (finish solver session (reads.map .read)) := by
  induction reads generalizing session with
  | nil => exact held
  | cons result others inductionHypothesis =>
    exact inductionHypothesis
      (kept _ _ ((consults_readResult result).stateAfter session) held)

end Session

end ConicModel
