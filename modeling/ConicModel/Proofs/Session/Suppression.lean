import ConicModel.Proofs.Session.Conduct
import ConicModel.Proofs.Session.Direct
import ConicModel.Proofs.Session.Gathering
import ConicModel.Proofs.Session.Lifespan
import ConicModel.Solver.Scripted

/-!
Contract: which failures of an instance the reads of values pass on, in a session without a model.

Owns:
- `JournalEntry.flaw?`, what is wrong with a reply, and `JournalEntry.Denies`, the replies that
  there is no value;
- `Logs`, which ties what an action returns or is refused for to the calls that it made;
- `Accounts`, which says how a refusal follows from the replies;
- the fact that a read passes on every failure, other than that of the status that is asked
  whether there are values.

Does not own: which values a read returns.

A read of a value first asks whether there are values.  The question may be put to any session, so
it has no refusal and takes a status that fails for one that says no.  The read inherits this.
-/

namespace ConicModel

variable {World Factory Instance α β : Type}

/-! ## Replies that are flawed, and replies that there is no value -/

/-- Whether a value is of the type that the reads of values expect of an attribute. -/
def Attribute.expects (wanted : Attribute) (value : AttributeValue) : Except SolverError Unit :=
  match wanted with
  | .primalStatus | .dualStatus => (wanted.asResult value).map fun _ => ()
  | .objectiveValue | .variablePrimal _ => (wanted.asFloat value).map fun _ => ()
  | .constraintSet _ => (wanted.asSet value).map fun _ => ()
  | .constraintPrimal _ | .constraintDual _ => (wanted.asVector value).map fun _ => ()
  | _ => .ok ()

/-- What is wrong with a reply: a failure other than not knowing the attribute, or the complaint
about a value of the wrong type. -/
def Attribute.flaw? (wanted : Attribute) : Except SolverError AttributeValue → Option SolverError
  | .error failure => if failure.isUnsupported then none else some failure
  | .ok value =>
    match wanted.expects value with
    | .error complaint => some complaint
    | .ok () => none

namespace JournalEntry

/-- What is wrong with the reply that was written down. -/
def flaw? (entry : JournalEntry Factory) : Option SolverError :=
  match entry.call with
  | .get wanted reply => wanted.flaw? reply
  | _ => none

def Asks (entry : JournalEntry Factory) (wanted : Attribute) : Prop :=
  ∃ reply, entry.call = .get wanted reply

/-- Whether the reply was that there is no value: there is no solution, or the attribute is not
known. -/
def Denies (entry : JournalEntry Factory) : Prop :=
  ∃ wanted reply, entry.call = .get wanted reply ∧
    (reply = .ok (.result .noSolution) ∨
      ∃ failure : SolverError, reply = .error failure ∧ failure.isUnsupported = true)

end JournalEntry

def Flawless (added : List (JournalEntry Factory)) : Prop :=
  ∀ entry ∈ added, entry.flaw? = none

/-- The last reply was that there is no value. -/
def Denied (added : List (JournalEntry Factory)) : Prop :=
  ∃ earlier last, added = earlier ++ [last] ∧ last.Denies

/-- How a refusal follows from the replies that were got, where a status is asked first whether
there are values: a value is missing only where the last reply denies it or the status failed,
and a flaw of another reply is the cause. -/
structure Accounts (status : Attribute) (cause : Session.Error)
    (added : List (JournalEntry Factory)) : Prop where
  missing : cause.kind = .precondition → Denied added ∨
    ∃ earlier last, added = earlier ++ [last] ∧ last.Asks status ∧ last.flaw? ≠ none
  suppressed : ∀ entry ∈ added, entry.flaw? ≠ none → entry.Asks status → cause.kind = .precondition
  passed : ∀ entry ∈ added, ∀ flaw, entry.flaw? = some flaw → ¬ entry.Asks status →
    cause = .solver flaw

theorem flawless_nil : Flawless ([] : List (JournalEntry Factory)) :=
  List.forall_mem_nil _

theorem Flawless.not_flawed {added : List (JournalEntry Factory)} (flawless : Flawless added)
    {entry : JournalEntry Factory} (member : entry ∈ added) {flaw : SolverError} :
    entry.flaw? ≠ some flaw := by
  rw [flawless entry member]
  exact nofun

theorem Flawless.append {earlier added : List (JournalEntry Factory)} (left : Flawless earlier)
    (right : Flawless added) : Flawless (earlier ++ added) :=
  List.forall_mem_append.mpr ⟨left, right⟩

theorem Denied.after {added : List (JournalEntry Factory)} (denied : Denied added)
    (earlier : List (JournalEntry Factory)) : Denied (earlier ++ added) := by
  obtain ⟨before, last, rfl, denies⟩ := denied
  exact ⟨earlier ++ before, last, (List.append_assoc _ _ _).symm, denies⟩

/-- Only the calls since the last flawless ones have to be accounted for. -/
theorem Accounts.after {status : Attribute} {cause : Session.Error}
    {earlier added : List (JournalEntry Factory)} (accounts : Accounts status cause added)
    (flawless : Flawless earlier) : Accounts status cause (earlier ++ added) where
  missing := by
    intro kind
    rcases accounts.missing kind with denied | ⟨before, last, rfl, asks, flawed⟩
    · exact .inl (denied.after earlier)
    · exact .inr ⟨earlier ++ before, last, (List.append_assoc _ _ _).symm, asks, flawed⟩
  suppressed := by
    intro entry member flawed
    rcases List.mem_append.mp member with old | new
    · exact absurd (flawless entry old) flawed
    · exact accounts.suppressed entry new flawed
  passed := by
    intro entry member flaw found
    rcases List.mem_append.mp member with old | new
    · exact absurd found (flawless.not_flawed old)
    · exact accounts.passed entry new flaw found

/-- After replies without a flaw it is enough that a value that is missing was denied. -/
theorem accounts_of_flawless {status : Attribute} {cause : Session.Error}
    {added : List (JournalEntry Factory)} (flawless : Flawless added)
    (denied : cause.kind = .precondition → Denied added) : Accounts status cause added where
  missing kind := .inl (denied kind)
  suppressed entry member flawed := absurd (flawless entry member) flawed
  passed _ member _ found := absurd found (flawless.not_flawed member)

/-! ## Actions and the calls they make -/

section Logs

variable {ε σ Entry : Type}

/-- Wherever the property holds, the action adds to the log, what it returns or is refused for
fits what it added, and the property still holds. -/
def Logs (log : σ → List Entry) (holds : σ → Prop) (action : EStateM ε σ α)
    (returned : α → List Entry → Prop) (refused : ε → List Entry → Prop) : Prop :=
  ∀ state, holds state → Ends action state
    (fun value after => holds after ∧ ∃ added, log after = log state ++ added ∧
      returned value added)
    fun cause after => holds after ∧ ∃ added, log after = log state ++ added ∧ refused cause added

variable {log : σ → List Entry} {holds : σ → Prop} {action : EStateM ε σ α}
  {returned : α → List Entry → Prop} {refused : ε → List Entry → Prop}

theorem Logs.mono {returned' : α → List Entry → Prop} {refused' : ε → List Entry → Prop}
    (logs : Logs log holds action returned refused)
    (ok : ∀ value added, returned value added → returned' value added)
    (error : ∀ cause added, refused cause added → refused' cause added) :
    Logs log holds action returned' refused' := by
  intro state held
  refine (logs state held).mono ?_ ?_
  · rintro value after ⟨still, added, joined, fits⟩
    exact ⟨still, added, joined, ok value added fits⟩
  · rintro cause after ⟨still, added, joined, fits⟩
    exact ⟨still, added, joined, error cause added fits⟩

theorem logs_pure {value : α} (fits : returned value []) :
    Logs log holds (pure value : EStateM ε σ α) returned refused :=
  fun _ held => ends_pure ⟨held, [], (List.append_nil _).symm, fits⟩

theorem logs_throw {cause : ε} (fits : refused cause []) :
    Logs log holds (throw cause : EStateM ε σ α) returned refused :=
  fun _ held => ends_throw ⟨held, [], (List.append_nil _).symm, fits⟩

/-- What the second action is refused for has to fit the calls of both. -/
theorem logs_bind {next : α → EStateM ε σ β} {finished : β → List Entry → Prop}
    (first : Logs log holds action returned refused)
    (second : ∀ value earlier, returned value earlier → Logs log holds (next value)
      (fun result added => finished result (earlier ++ added))
      fun cause added => refused cause (earlier ++ added)) :
    Logs log holds (action >>= next) finished refused := by
  intro state held
  apply ends_bind
  refine (first state held).mono ?_ fun _ _ ended => ended
  rintro value middle ⟨heldMiddle, earlier, joined, fits⟩
  refine (second value earlier fits middle heldMiddle).mono ?_ ?_
  · rintro result after ⟨still, added, further, fitsBoth⟩
    exact ⟨still, earlier ++ added, by rw [further, joined, List.append_assoc], fitsBoth⟩
  · rintro cause after ⟨still, added, further, fitsBoth⟩
    exact ⟨still, earlier ++ added, by rw [further, joined, List.append_assoc], fitsBoth⟩

/-- What is returned right after calls has to fit these alone. -/
theorem logs_pure_after {value : α} {earlier : List Entry} (fits : returned value earlier) :
    Logs log holds (pure value : EStateM ε σ α)
      (fun value added => returned value (earlier ++ added)) refused :=
  logs_pure (by rwa [List.append_nil])

theorem logs_throw_after {cause : ε} {earlier : List Entry} (fits : refused cause earlier) :
    Logs log holds (throw cause : EStateM ε σ α) returned
      fun cause added => refused cause (earlier ++ added) :=
  logs_throw (by rwa [List.append_nil])

theorem logs_tryCatch {handle : ε → EStateM ε σ α} {caught : ε → List Entry → Prop}
    (body : Logs log holds action returned caught)
    (handler : ∀ cause earlier, caught cause earlier → Logs log holds (handle cause)
      (fun value added => returned value (earlier ++ added))
      fun cause added => refused cause (earlier ++ added)) :
    Logs log holds (tryCatch action handle) returned refused := by
  intro state held
  apply ends_tryCatch
  refine (body state held).mono (fun _ _ ended => ended) ?_
  rintro cause middle ⟨heldMiddle, earlier, joined, seen⟩
  refine (handler cause earlier seen middle heldMiddle).mono ?_ ?_
  · rintro value after ⟨still, added, further, fitsBoth⟩
    exact ⟨still, earlier ++ added, by rw [further, joined, List.append_assoc], fitsBoth⟩
  · rintro cause after ⟨still, added, further, fitsBoth⟩
    exact ⟨still, earlier ++ added, by rw [further, joined, List.append_assoc], fitsBoth⟩

theorem logs_ofState {next : σ → EStateM ε σ α}
    (each : ∀ state, holds state → Logs log holds (next state) returned refused) :
    Logs log holds (get >>= next) returned refused :=
  fun state held => ends_bind (ends_get (each state held state held))

end Logs

section Sincere

variable {σ : Type} {log : σ → List (JournalEntry Factory)} {holds : σ → Prop} {status : Attribute}
  {action : EStateM Session.Error σ α}

/-- The refusals of the action account for the calls it made, and it returns only after flawless
ones. -/
def Sincere (log : σ → List (JournalEntry Factory)) (holds : σ → Prop) (status : Attribute)
    (action : EStateM Session.Error σ α) : Prop :=
  Logs log holds action (fun _ added => Flawless added) (Accounts status)

theorem sincere_pure (value : α) :
    Sincere log holds status (pure value : EStateM Session.Error σ α) :=
  logs_pure flawless_nil

/-- What comes after flawless calls has only its own ones to account for. -/
theorem sincere_bind {next : α → EStateM Session.Error σ β}
    (first : Sincere log holds status action)
    (second : ∀ value, Sincere log holds status (next value)) :
    Sincere log holds status (action >>= next) :=
  logs_bind first fun value _ flawless =>
    (second value).mono (fun _ _ more => flawless.append more) fun _ _ accounts =>
      accounts.after flawless

theorem sincere_map {change : α → β} (body : Sincere log holds status action) :
    Sincere log holds status (change <$> action) :=
  sincere_bind body fun value => sincere_pure (change value)

end Sincere

/-! ## Asking the instance -/

namespace Link

def Bare (target : Instance) (link : Link World Factory Instance) : Prop :=
  link.mode = .direct ∧ link.live = some target

def entries (link : Recorded World Factory Instance) : List (JournalEntry Factory) :=
  link.world.entries

def question (target : Tracked Factory Instance) (wanted : Attribute)
    (reply : Except SolverError AttributeValue) : JournalEntry Factory :=
  ⟨target.number, target.factory, .get wanted reply⟩

section Questions

variable {solver : Solver World Factory Instance} {target : Tracked Factory Instance}
  {status wanted : Attribute} {reply : Except SolverError AttributeValue}

theorem flawless_question (sound : wanted.flaw? reply = none) :
    Flawless [question target wanted reply] :=
  List.forall_mem_singleton.mpr sound

theorem denied_question (denies : reply = .ok (.result .noSolution) ∨
      ∃ failure : SolverError, reply = .error failure ∧ failure.isUnsupported = true) :
    Denied [question target wanted reply] :=
  ⟨[], _, rfl, wanted, reply, rfl, denies⟩

theorem asks_question (other : Attribute) :
    (question target wanted reply).Asks other ↔ wanted = other := by
  constructor
  · rintro ⟨_, same⟩
    cases same
    rfl
  · rintro rfl
    exact ⟨reply, rfl⟩

/-- A question about another attribute than the status is accounted for by the failure of its
reply. -/
theorem accounts_question {failure : SolverError} (other : wanted ≠ status)
    (flawed : ∀ flaw, wanted.flaw? reply = some flaw → flaw = failure) :
    Accounts status (.solver failure) [question target wanted reply] where
  missing := nofun
  suppressed := by
    rintro entry member _ asks
    rw [List.mem_singleton.mp member, asks_question] at asks
    exact absurd asks other
  passed := by
    rintro entry member flaw found _
    rw [List.mem_singleton.mp member] at found
    rw [flawed flaw found]

variable {cast : Attribute → AttributeValue → Except SolverError α}
  (typed : ∀ value, wanted.expects value = (cast wanted value).map fun _ => ())
include typed

theorem flaw?_of_ok {value : AttributeValue} {found : α}
    (interpreted : cast wanted value = .ok found) : wanted.flaw? (.ok value) = none := by
  unfold Attribute.flaw?
  dsimp only
  rw [typed, interpreted]
  rfl

/-- The flaw of a reply that fails is the failure. -/
theorem eq_of_fails {failure : SolverError} (fails : Fails (cast wanted) reply failure) :
    ∀ flaw, wanted.flaw? reply = some flaw → flaw = failure := by
  intro flaw found
  unfold Attribute.flaw? at found
  cases fails with
  | error =>
    dsimp only at found
    split at found
    · cases found
    · exact (Option.some.inj found).symm
  | @mistyped value complaint rejected =>
    dsimp only at found
    rw [typed, rejected] at found
    exact (Option.some.inj found).symm

/-- A reply that fails, and not because the attribute is unknown, is flawed. -/
theorem flaw?_of_fails {failure : SolverError} (fails : Fails (cast wanted) reply failure)
    (known : reply = .error failure → failure.isUnsupported = false) :
    wanted.flaw? reply = some failure := by
  unfold Attribute.flaw?
  cases fails with
  | error =>
    dsimp only
    rw [known rfl, if_neg (by decide)]
  | @mistyped value complaint rejected =>
    dsimp only
    rw [typed, rejected]
    rfl

theorem sincere_read (other : wanted ≠ status) :
    Sincere entries (Bare target) status (read solver.recorded target wanted cast) := by
  intro link bare
  refine (ends_read wanted cast).mono ?_ ?_
  · rintro found _ ⟨value, world, interpreted, rfl⟩
    exact ⟨bare, [question target wanted (.ok value)], rfl,
      flawless_question (flaw?_of_ok typed interpreted)⟩
  · rintro _ _ ⟨reply, failure, world, fails, rfl, rfl⟩
    exact ⟨bare, [question target wanted reply], rfl,
      accounts_question other (eq_of_fails typed fails)⟩

theorem logs_read? :
    Logs entries (Bare target) (read? solver.recorded target wanted cast)
      (fun found added => Flawless added ∧ ∃ reply, added = [question target wanted reply] ∧
        match found with
        | some read => ∃ value, reply = .ok value ∧ cast wanted value = .ok read
        | none => Denied added)
      fun cause added => ∃ reply failure, added = [question target wanted reply] ∧
        wanted.flaw? reply = some failure ∧ cause = .solver failure := by
  intro link bare
  refine (ends_read? wanted cast).mono ?_ ?_
  · rintro found _ ⟨reply, world, rfl, ⟨value, read, rfl, interpreted, rfl⟩ |
      ⟨failure, rfl, unsupported, rfl⟩⟩
    · exact ⟨bare, [question target wanted (.ok value)], rfl,
        flawless_question (flaw?_of_ok typed interpreted), _, rfl, value, rfl, interpreted⟩
    · have sound : wanted.flaw? (.error failure) = none := if_pos unsupported
      exact ⟨bare, [question target wanted (.error failure)], rfl, flawless_question sound, _, rfl,
        denied_question (.inr ⟨failure, rfl, unsupported⟩)⟩
  · rintro _ _ ⟨reply, failure, world, fails, known, rfl, rfl⟩
    exact ⟨bare, [question target wanted reply], rfl, reply, failure, rfl,
      flaw?_of_fails typed fails known, rfl⟩

theorem logs_optional (other : wanted ≠ status) :
    Logs entries (Bare target) (read? solver.recorded target wanted cast)
      (fun found added => Flawless added ∧ (found = none → Denied added)) (Accounts status) := by
  refine (logs_read? typed).mono ?_ ?_
  · rintro found added ⟨flawless, _, _, fits⟩
    refine ⟨flawless, ?_⟩
    rintro rfl
    exact fits
  · rintro _ _ ⟨reply, failure, rfl, flawed, rfl⟩
    refine accounts_question other fun flaw found => ?_
    rw [flawed] at found
    exact (Option.some.inj found).symm

end Questions

section Reads

variable {solver : Solver World Factory Instance} {target : Tracked Factory Instance}
  {status : Attribute}

theorem sincere_variablePrimal (index : VariableIndex) :
    Sincere entries (Bare target) .primalStatus (variablePrimal solver.recorded target index) :=
  sincere_read (fun _ => rfl) nofun

/-- A value of the wrong length is refused after flawless replies. -/
theorem sincere_constraintPrimal (index : ConstraintIndex) (set : ConstraintSet Float) :
    Sincere entries (Bare target) .primalStatus
      (constraintPrimal solver.recorded target index set) := by
  have values : Sincere entries (Bare target) .primalStatus
      (read solver.recorded target (.constraintPrimal index) Attribute.asVector) :=
    sincere_read (fun _ => rfl) nofun
  refine logs_bind values fun values earlier flawless => ?_
  split
  · exact logs_pure_after flawless
  · exact logs_throw_after (accounts_of_flawless flawless nofun)

/-- A set is read for the values of a constraint, primal or dual. -/
theorem sincere_constraintSet (index : ConstraintIndex)
    (other : Attribute.constraintSet index ≠ status) :
    Sincere entries (Bare target) status (constraintSet solver.recorded target index) :=
  sincere_read (fun _ => rfl) other

theorem logs_objectiveValue :
    Logs entries (Bare target) (optionalFloat solver.recorded target .objectiveValue)
      (fun found added => Flawless added ∧ (found = none → Denied added))
      (Accounts .primalStatus) :=
  logs_optional (fun _ => rfl) nofun

/-- A constraint without a dual value was denied one. -/
theorem logs_constraintDual? (index : ConstraintIndex) (set : ConstraintSet Float) :
    Logs entries (Bare target) (constraintDual? solver.recorded target index set)
      (fun found added => Flawless added ∧ (found = none → Denied added))
      (Accounts .dualStatus) := by
  have values : Logs entries (Bare target)
      (read? solver.recorded target (.constraintDual index) Attribute.asVector)
      (fun found added => Flawless added ∧ (found = none → Denied added))
      (Accounts .dualStatus) := logs_optional (fun _ => rfl) nofun
  refine logs_bind values fun values earlier fits => logs_pure ?_
  rw [List.append_nil, Option.map_eq_none_iff]
  exact fits

/-- A status that there are no values was replied, and one that is refused is flawed. -/
theorem logs_resultStatus
    (typed : ∀ value, status.expects value = (status.asResult value).map fun _ => ()) :
    Logs entries (Bare target) (resultStatus solver.recorded target status)
      (fun found added => ∃ reply, added = [question target status reply] ∧ Flawless added ∧
        (found.hasValues = false → Denied added))
      fun _ added => ∃ reply, added = [question target status reply] ∧
        status.flaw? reply ≠ none := by
  have read : Logs entries (Bare target)
      (read? solver.recorded target status Attribute.asResult) _ _ := logs_read? typed
  refine logs_bind (read.mono (fun _ _ fits => fits) ?_) fun found earlier fits => logs_pure ?_
  · rintro _ _ ⟨reply, failure, rfl, flawed, _⟩
    refine ⟨reply, rfl, ?_⟩
    rw [flawed]
    exact nofun
  · rw [List.append_nil]
    obtain ⟨flawless, reply, rfl, settled⟩ := fits
    refine ⟨reply, rfl, flawless, fun none => ?_⟩
    cases found with
    | none => exact settled
    | some read =>
      obtain ⟨value, rfl, interpreted⟩ := settled
      cases read with
      | noSolution =>
        cases value <;> cases interpreted
        exact denied_question (.inl rfl)
      | _ => cases none

end Reads

end Link

namespace Session

section Reads

variable {solver : Solver World Factory Instance} {target : Tracked Factory Instance}
  {status : Attribute}

theorem logs_fromSource
    {ask : Tracked Factory Instance →
      Link.Action (Journal World Factory) Factory (Tracked Factory Instance) α}
    {otherwise : Action (Journal World Factory) Factory (Tracked Factory Instance) α}
    {returned : α → List (JournalEntry Factory) → Prop}
    {refused : Error → List (JournalEntry Factory) → Prop}
    (asked : Logs Link.entries (Link.Bare target) (ask target) returned refused) :
    Logs entries (Attached target) (fromSource ask otherwise) returned refused := by
  apply logs_ofState
  intro session attached
  rw [attached.resultSource?]
  intro now held
  have bare : Link.Bare target now.link := ⟨mode_of_direct held.direct, held.live⟩
  have kept : ∀ {link : Link.Recorded World Factory Instance}, Link.Bare target link →
      Attached target { now with link := link } := fun still =>
    held.relink (still.1.trans bare.1.symm) (still.2.trans bare.2.symm)
  apply ends_onLink
  refine (asked now.link bare).mono ?_ ?_
  · rintro value link ⟨still, added, joined, fits⟩
    exact ⟨kept still, added, joined, fits⟩
  · rintro cause link ⟨still, added, joined, fits⟩
    exact ⟨kept still, added, joined, fits⟩

theorem logs_afterRecord
    {next : Action (Journal World Factory) Factory (Tracked Factory Instance) α}
    {returned : α → List (JournalEntry Factory) → Prop}
    {refused : Error → List (JournalEntry Factory) → Prop}
    (rest : Logs entries (Attached target) next returned refused) :
    Logs entries (Attached target) (do
      if (← get).isCached then discard requireRecord
      next) returned refused := by
  apply logs_ofState
  intro session attached
  dsimp only
  rw [attached.direct, if_neg (by decide)]
  exact rest

/-! ## The question whether there are values -/

/-- What the question whether there are values tells: where the answer is no, the status denies
them or is flawed. -/
def Reveals (target : Tracked Factory Instance) (status : Attribute) (values : Bool)
    (added : List (JournalEntry Factory)) : Prop :=
  ∃ reply, added = [Link.question target status reply] ∧
    ((values = true ∨ Denied added) ∧ Flawless added ∨
      values = false ∧ status.flaw? reply ≠ none)

theorem Reveals.flawless {added : List (JournalEntry Factory)}
    (reveals : Reveals target status true added) : Flawless added := by
  obtain ⟨_, _, ⟨_, flawless⟩ | ⟨never, _⟩⟩ := reveals
  · exact flawless
  · cases never

/-- The answer no accounts for a value that is missing. -/
theorem Reveals.accounts {added : List (JournalEntry Factory)}
    (reveals : Reveals target status false added) (missing : Unavailable) :
    Accounts status (.precondition missing) added := by
  obtain ⟨reply, rfl, ⟨never | denied, flawless⟩ | ⟨_, flawed⟩⟩ := reveals
  · cases never
  · exact accounts_of_flawless flawless fun _ => denied
  · have asks : (Link.question target status reply).Asks status :=
      (Link.asks_question status).mpr rfl
    refine ⟨fun _ => .inr ⟨[], _, rfl, asks, flawed⟩, fun _ _ _ _ => rfl, ?_⟩
    intro entry member _ _ other
    rw [List.mem_singleton.mp member] at other
    exact absurd asks other

theorem logs_saysValues
    (typed : ∀ value, status.expects value = (status.asResult value).map fun _ => ())
    {otherwise : Action (Journal World Factory) Factory (Tracked Factory Instance) ResultStatus} :
    Logs entries (Attached target)
      (saysValues (fromSource (Link.resultStatus solver.recorded · status) otherwise))
      (Reveals target status) (Accounts status) := by
  have asked : Logs entries (Attached target)
      (fromSource (Link.resultStatus solver.recorded · status) otherwise) _ _ :=
    logs_fromSource (Link.logs_resultStatus typed)
  have mapped : Logs entries (Attached target)
      (do return (← fromSource (Link.resultStatus solver.recorded · status) otherwise).hasValues)
      (Reveals target status) fun _ added => Reveals target status false added := by
    refine logs_bind (asked.mono (fun _ _ fits => fits) ?_) fun found earlier fits => logs_pure ?_
    · rintro _ _ ⟨reply, rfl, flawed⟩
      exact ⟨reply, rfl, .inr ⟨rfl, flawed⟩⟩
    · rw [List.append_nil]
      obtain ⟨reply, rfl, flawless, denied⟩ := fits
      refine ⟨reply, rfl, .inl ⟨?_, flawless⟩⟩
      cases values : found.hasValues with
      | true => exact .inl rfl
      | false => exact .inr (denied values)
  exact logs_tryCatch mapped fun cause earlier reveals => logs_pure_after reveals

/-! ## Reads of values -/

theorem sincere_requirePrimal :
    Sincere entries (Attached target) .primalStatus (requirePrimal solver.recorded) := by
  apply logs_afterRecord
  refine logs_bind (logs_saysValues fun _ => rfl) fun values earlier reveals => ?_
  cases values with
  | true => exact logs_pure_after reveals.flawless
  | false => exact logs_throw_after (reveals.accounts _)

theorem sincere_objectiveValue :
    Sincere entries (Attached target) .primalStatus (objectiveValue solver.recorded) := by
  refine sincere_bind sincere_requirePrimal fun _ => ?_
  refine logs_bind (logs_fromSource Link.logs_objectiveValue) fun found earlier fits => ?_
  obtain ⟨flawless, denied⟩ := fits
  cases found with
  | some value => exact logs_pure_after flawless
  | none => exact logs_throw_after (accounts_of_flawless flawless fun _ => denied rfl)

theorem sincere_value (id : VariableId) :
    Sincere entries (Attached target) .primalStatus (value solver.recorded id) :=
  sincere_bind sincere_requirePrimal fun _ => logs_fromSource (Link.sincere_variablePrimal _)

theorem sincere_constraintValue (id : ConstraintId) :
    Sincere entries (Attached target) .primalStatus (constraintValue solver.recorded id) :=
  sincere_bind sincere_requirePrimal fun _ => logs_fromSource
    (sincere_bind (Link.sincere_constraintSet _ nofun) fun set =>
      Link.sincere_constraintPrimal _ set)

/-- Each mention of a variable is a read of its own, which asks for the status again. -/
theorem sincere_resultValueOf (expr : Expr Float) :
    Sincere entries (Attached target) .primalStatus (resultValueOf solver.recorded expr) := by
  have evaluated : Sincere entries (Attached target) .primalStatus
      (expr.evaluateWith (value solver.recorded)) :=
    Expr.evaluateWith_of_reads sincere_pure (fun first next => sincere_bind first next)
      sincere_value expr
  refine sincere_bind sincere_requirePrimal fun _ => ?_
  apply logs_ofState
  intro session attached
  rw [attached.direct, if_neg (by decide)]
  exact evaluated

theorem logs_askDual (id : ConstraintId) :
    Logs Link.entries (Link.Bare target) (askDual solver.recorded id target)
      (fun found added => Flawless added ∧ (found = none → Denied added))
      (Accounts .dualStatus) := by
  have set : Sincere Link.entries (Link.Bare target) .dualStatus
      (Link.constraintSet solver.recorded target ⟨id.number⟩) :=
    Link.sincere_constraintSet _ nofun
  refine logs_bind set fun set earlier flawless => ?_
  refine (Link.logs_constraintDual? ⟨id.number⟩ set).mono ?_ fun _ _ accounts =>
    accounts.after flawless
  exact fun found added fits => ⟨flawless.append fits.1, fun none => (fits.2 none).after earlier⟩

theorem sincere_resultDual (id : ConstraintId) :
    Sincere entries (Attached target) .dualStatus (resultDual solver.recorded (.con id)) := by
  have found : Sincere entries (Attached target) .dualStatus (do
      let found ← fromSource (askDual solver.recorded id) (recallDual id)
      requireDual id found) := by
    refine logs_bind (logs_fromSource (logs_askDual id)) fun found earlier fits => ?_
    obtain ⟨flawless, denied⟩ := fits
    match found with
    | some (.ok value) => exact logs_pure_after flawless
    | some (.error mismatch) =>
      exact logs_throw_after (accounts_of_flawless flawless nofun)
    | none =>
      exact logs_throw_after (accounts_of_flawless flawless fun _ => denied rfl)
  apply logs_afterRecord
  refine logs_bind (logs_saysValues fun _ => rfl) fun values earlier reveals => ?_
  cases values with
  | true =>
    exact found.mono (fun _ _ more => reveals.flawless.append more) fun _ _ accounts =>
      accounts.after reveals.flawless
  | false => exact logs_throw_after (reveals.accounts _)

/-- A variable has no dual value, whatever the instance says. -/
theorem logs_dualOfVariable (id : VariableId) :
    Logs entries (Attached target) (resultDual solver.recorded (.var id)) (fun _ _ => False)
      fun _ added => added = [] :=
  logs_afterRecord (logs_throw rfl)

/-- The status that a read of a value asks first whether there are values. -/
def ResultRead.status? : ResultRead → Option Attribute
  | .objectiveValue | .value _ | .valueOfEntity _ | .valueOfExpr _ => some .primalStatus
  | .dual _ => some .dualStatus
  | _ => none

theorem sincere_readResult {result : ResultRead} (asked : result.status? = some status)
    (owned : ∀ id, result ≠ .dual (.var id)) :
    Sincere entries (Attached target) status (readResult solver.recorded result) := by
  cases result with
  | objectiveValue =>
    cases asked
    exact sincere_map sincere_objectiveValue
  | value id =>
    cases asked
    exact sincere_map (sincere_value id)
  | valueOfEntity entity =>
    cases asked
    cases entity with
    | var id => exact sincere_map (sincere_bind (sincere_value id) fun _ => sincere_pure _)
    | con id => exact sincere_map (sincere_constraintValue id)
  | valueOfExpr expr =>
    cases asked
    exact sincere_map (sincere_resultValueOf expr)
  | dual entity =>
    cases asked
    cases entity with
    | var id => exact absurd rfl (owned id)
    | con id => exact sincere_map (sincere_resultDual id)
  | _ => cases asked

end Reads

/-! ## Runs -/

/-- What a read of a value makes of the replies that it gets.  A value is refused as missing only
where the last reply was that there is none, where the status failed, or where the dual value of a
variable was asked for.  The status that failed is suppressed, so a value is said to be missing.
Every other reply that is flawed is the cause of the refusal. -/
structure Reports (result : ResultRead) (status : Attribute) (outcome : Except Error Answer)
    (added : List (JournalEntry Factory)) : Prop where
  missing : ∀ cause, outcome = .error cause → cause.kind = .precondition →
    (∃ id, result = .dual (.var id)) ∨ Denied added ∨
      ∃ earlier last, added = earlier ++ [last] ∧ last.Asks status ∧ last.flaw? ≠ none
  suppressed : ∀ entry ∈ added, entry.flaw? ≠ none → entry.Asks status →
    ∃ cause, outcome = .error cause ∧ cause.kind = .precondition
  passed : ∀ entry ∈ added, ∀ flaw, entry.flaw? = some flaw → ¬ entry.Asks status →
    outcome = .error (.solver flaw)

theorem reports_of_flawless {result : ResultRead} {status : Attribute}
    {outcome : Except Error Answer} {added : List (JournalEntry Factory)}
    (flawless : Flawless added)
    (other : ∀ cause, outcome = .error cause → cause.kind = .precondition →
      ∃ id, result = .dual (.var id)) : Reports result status outcome added where
  missing cause failed kind := .inl (other cause failed kind)
  suppressed entry member flawed := absurd (flawless entry member) flawed
  passed _ member _ found := absurd found (flawless.not_flawed member)

theorem reports_of_accounts {result : ResultRead} {status : Attribute} {cause : Error}
    {added : List (JournalEntry Factory)} (accounts : Accounts status cause added) :
    Reports result status (.error cause) added where
  missing := by
    rintro _ ⟨⟩ kind
    exact .inr (accounts.missing kind)
  suppressed entry member flawed asks :=
    ⟨cause, rfl, accounts.suppressed entry member flawed asks⟩
  passed entry member flaw found other := by
    rw [accounts.passed entry member flaw found other]

/-- In every run of a session without a model, every read of a value passes on the failures of the
instance and the values of the wrong type, other than those of the status that it asks first: these
are always suppressed. -/
theorem failures_of_reads {session : Recorded World Factory Instance}
    {solver : Solver World Factory Instance} (opened : Opened solver.recorded session)
    (direct : session.isCached = false) (operations : List (Operation Factory))
    (result : ResultRead) {status : Attribute} (asked : result.status? = some status) :
    let now := finish solver.recorded session operations
    let next := step solver.recorded now (.read result)
    ∃ added, next.after.entries = now.entries ++ added ∧
      Reports result status next.outcome added := by
  intro now next
  obtain ⟨target, attached⟩ := opened.attached direct
  have still : Attached target now := attached_finish attached operations
  refine Step.of_ends (fun outcome (after : Recorded World Factory Instance) =>
    ∃ added, after.entries = now.entries ++ added ∧ Reports result status outcome added) ?_
  by_cases ofVariable : ∃ id, result = .dual (.var id)
  · obtain ⟨id, rfl⟩ := ofVariable
    have refused : Logs entries (Attached target)
        (Answer.value <$> resultDual solver.recorded (.var id)) (fun _ _ => False)
        fun _ added => added = [] :=
      logs_bind (logs_dualOfVariable id) fun _ _ never => never.elim
    refine (refused now still).mono (fun _ _ ⟨_, _, _, never⟩ => never.elim) ?_
    rintro cause after ⟨_, _, joined, rfl⟩
    exact ⟨[], joined, reports_of_flawless flawless_nil fun _ _ _ => ⟨id, rfl⟩⟩
  · have sincere : Sincere entries (Attached target) status (readResult solver.recorded result) :=
      sincere_readResult asked fun id same => ofVariable ⟨id, same⟩
    refine (sincere now still).mono ?_ ?_
    · rintro answer after ⟨_, added, joined, flawless⟩
      exact ⟨added, joined, reports_of_flawless flawless nofun⟩
    · rintro cause after ⟨_, added, joined, accounts⟩
      exact ⟨added, joined, reports_of_accounts accounts⟩

/-! ## Runs with a scripted solver -/

/-- A session without a model, with a solver that replies as given. -/
def replyingSession (gets : Scripted.ReplyTable AttributeValue) :
    Recorded Scripted.World String Scripted.Instance :=
  stateAfter (start Scripted.solver.recorded) (unplayed { mode := .direct, factory := some "demo" }
    { scripts := [("demo", { gets := gets })] })

def replyingQuestion (wanted : Attribute) (reply : Except SolverError AttributeValue) :
    JournalEntry String :=
  Link.question ⟨0, "demo", (⟨"demo", 0⟩ : Scripted.Instance)⟩ wanted reply

/-- There are values, but the value of the variable cannot be read. -/
def failingValue : Scripted.ReplyTable AttributeValue :=
  [("PrimalStatus", some (.ok (.result .feasiblePoint))),
    ("VariablePrimal(backend_variable[0])", some (.error (.internal "boom")))]

def failingStatus : Scripted.ReplyTable AttributeValue :=
  [("PrimalStatus", some (.error (.internal "boom"))),
    ("VariablePrimal(backend_variable[0])", some (.ok (.float 1.5)))]

/-- The failure to read the value is passed on. -/
theorem failure_of_value_passed :
    (Opened Scripted.solver.recorded (replyingSession failingValue) ∧
      (replyingSession failingValue).isCached = false ∧
      ResultRead.status? (.value ⟨0⟩) = some .primalStatus) ∧
    (step Scripted.solver.recorded (replyingSession failingValue) (.read (.value ⟨0⟩))).outcome =
      .error (.solver (.internal "boom")) := by
  have opened : Opened Scripted.solver.recorded (replyingSession failingValue) :=
    .start { mode := .direct, factory := some "demo" }
      { world := { scripts := [("demo", { gets := failingValue })] } } .fresh rfl
  have direct : (replyingSession failingValue).isCached = false := by decide +kernel
  refine ⟨⟨opened, direct, rfl⟩, ?_⟩
  obtain ⟨added, joined, reports⟩ := failures_of_reads opened direct [] (.value ⟨0⟩) rfl
  have calls : (step Scripted.solver.recorded (replyingSession failingValue)
        (.read (.value ⟨0⟩))).after.entries = (replyingSession failingValue).entries ++
      [replyingQuestion .primalStatus (.ok (.result .feasiblePoint)),
        replyingQuestion (.variablePrimal ⟨0⟩) (.error (.internal "boom"))] := rfl
  have same := List.append_cancel_left (joined.symm.trans calls)
  refine reports.passed (replyingQuestion (.variablePrimal ⟨0⟩) (.error (.internal "boom"))) ?_
    (.internal "boom") rfl ?_
  · rw [same]
    exact List.mem_cons_of_mem _ List.mem_cons_self
  · rw [replyingQuestion, Link.asks_question]
    exact nofun

/-- The failure to read the status is not, although the same failure is passed on to who asks for
the status itself. -/
theorem not_passed_of_status :
    (step Scripted.solver.recorded (replyingSession failingStatus) (.read .primalStatus)).outcome =
        .error (.solver (.internal "boom")) ∧
      ¬ ∀ (result : ResultRead) (added : List (JournalEntry String)), result.status?.isSome = true →
        (step Scripted.solver.recorded (replyingSession failingStatus)
          (.read result)).after.entries = (replyingSession failingStatus).entries ++ added →
        ∀ entry ∈ added, ∀ flaw, entry.flaw? = some flaw →
          (step Scripted.solver.recorded (replyingSession failingStatus) (.read result)).outcome =
            .error (.solver flaw) := by
  refine ⟨rfl, fun always => ?_⟩
  have passed := always (.value ⟨0⟩) [replyingQuestion .primalStatus (.error (.internal "boom"))]
    rfl rfl _ List.mem_cons_self (.internal "boom") rfl
  have suppressed : (step Scripted.solver.recorded (replyingSession failingStatus)
      (.read (.value ⟨0⟩))).outcome = .error (.precondition .primal) := rfl
  rw [suppressed] at passed
  cases passed

end Session

end ConicModel
