import ConicModel.Model.Reading
import ConicModel.Proofs.Model.WellFormed

/-!
Contract: the models that can be reached, and the invariant on all of them.

Owns:
- reachable models: the empty one, every one read from a text, and what changes
  make of a reachable one, refused changes included;
- what comes of changes that are asked for one after another;
- the rule by which a property that changes keep holds of what is read;
- the fact that changes of the empty model reach all of them;
- the invariant of reachable models.

Does not own: what a text says.
-/

namespace ConicModel.Model

/-- The model after a change was asked for.  A refused change leaves it as it is. -/
def attempt {K : Type} [ExtendedNumber K] [Zero K] [BEq K] [Add K] (model : Model K)
    (edit : Edit K) : Model K :=
  match model.apply edit with
  | .ok outcome => outcome.model
  | .error _ => model

section Attempt

variable {K : Type} [ExtendedNumber K] [Zero K] [BEq K] [Add K] {model : Model K} {edit : Edit K}

theorem attempt_of_ok {outcome : Outcome K} (applied : model.apply edit = .ok outcome) :
    model.attempt edit = outcome.model := by
  unfold attempt
  rw [applied]

theorem attempt_of_error {cause : ModelError K} (refused : model.apply edit = .error cause) :
    model.attempt edit = model := by
  unfold attempt
  rw [refused]

theorem WellFormed.attempted (wellFormed : model.WellFormed) (edit : Edit K) :
    (model.attempt edit).WellFormed := by
  cases applied : model.apply edit with
  | ok outcome =>
    rw [attempt_of_ok applied]
    exact wellFormed.apply applied
  | error cause => rwa [attempt_of_error applied]

/-- Changes asked for one after the other keep the invariant. -/
theorem WellFormed.foldl_attempted :
    ∀ {model : Model K}, model.WellFormed → ∀ edits : List (Edit K),
      (edits.foldl Model.attempt model).WellFormed
  | _, wellFormed, [] => wellFormed
  | _, wellFormed, edit :: edits => (wellFormed.attempted edit).foldl_attempted edits

end Attempt

def trail {K : Type} [ExtendedNumber K] [Zero K] [BEq K] [Add K] : Model K → List (Edit K) →
    List (Edit K × Except (ModelError K) (Option EntityRef))
  | _, [] => []
  | model, edit :: edits =>
    (edit, (model.apply edit).map Outcome.created) :: trail (model.attempt edit) edits

inductive Reachable : Model Float → Prop where
  | empty : Reachable .empty
  | read {text : String} {model : Model Float} (accepted : ofText text = .ok model) :
      Reachable model
  | attempt {model : Model Float} (reached : Reachable model) (edit : Edit Float) :
      Reachable (model.attempt edit)

/-- Changes asked for one after the other lead from one reachable model to another. -/
theorem Reachable.foldl_attempt {start : Model Float} (reached : start.Reachable) :
    ∀ edits : List (Edit Float), (edits.foldl Model.attempt start).Reachable
  | [] => reached
  | edit :: edits => (reached.attempt edit).foldl_attempt edits

/-! ## What reading keeps -/

def Edit.isRemoval {K : Type} : Edit K → Bool
  | .remove _ => true
  | _ => false

namespace Reader

/-- A step succeeds only with a reader that has the property, if the reader before
it had the property. -/
def Maintains (holds : Reader → Prop) {α : Type} (step : Step α) : Prop :=
  ∀ reader value after, step reader = .ok value after → holds reader → holds after

/-- A property of readers that no change of the model but a removal takes away. -/
def Enduring (holds : Reader → Prop) : Prop :=
  ∀ {reader : Reader} {edit : Edit Float} {outcome : Outcome Float} (events : List Event),
    edit.isRemoval = false → reader.model.apply edit = .ok outcome → holds reader →
      holds { reader with model := outcome.model, events := events }

/-- A step succeeds only with a model that has the property, if the model before
it had the property. -/
def Keeps (holds : Model Float → Prop) {α : Type} (step : Step α) : Prop :=
  ∀ reader value after, step reader = .ok value after → holds reader.model → holds after.model

def Lasting (holds : Model Float → Prop) : Prop :=
  ∀ {model : Model Float} {edit : Edit Float} {outcome : Outcome Float}, edit.isRemoval = false →
    model.apply edit = .ok outcome → holds model → holds outcome.model

theorem Lasting.enduring {holds : Model Float → Prop} (lasting : Lasting holds) :
    Enduring fun reader => holds reader.model :=
  fun _ grows applied kept => lasting grows applied kept

/-- A sequence of two steps succeeds if both do. -/
theorem bind_eq_ok {Cause State First Second : Type} {first : EStateM Cause State First}
    {next : First → EStateM Cause State Second} {state after : State} {result : Second} :
    (first >>= next) state = .ok result after ↔
      ∃ value middle, first state = .ok value middle ∧ next value middle = .ok result after := by
  show EStateM.bind first next state = _ ↔ _
  unfold EStateM.bind
  cases first state with
  | ok value middle =>
    constructor
    · exact fun done => ⟨value, middle, rfl, done⟩
    · rintro ⟨_, _, same, done⟩
      cases same
      exact done
  | error cause middle =>
    constructor
    · intro impossible
      cases impossible
    · rintro ⟨_, _, impossible, _⟩
      cases impossible

/-- A change that is performed leaves a model that it leads to, and the labels. -/
theorem perform_eq_ok {edit : Edit Float} {reader after : Reader} {created : Option EntityRef} :
    perform edit reader = .ok created after ↔
      ∃ outcome, reader.model.apply edit = .ok outcome ∧ outcome.created = created ∧
        after = ⟨outcome.model, reader.labels, reader.events ++ reader.model.reports edit⟩ := by
  unfold perform
  dsimp only
  cases reader.model.apply edit with
  | ok outcome => simp [eq_comm]
  | error cause => simp

section Maintains

variable {holds : Reader → Prop} {α β : Type}

theorem maintains_pure (value : α) : Maintains holds (pure value) := by
  intro reader _ after done kept
  cases done
  exact kept

theorem maintains_throw (cause : ParseCause) : Maintains holds (throw cause : Step α) :=
  fun _ _ _ impossible => nomatch impossible

theorem maintains_get : Maintains holds (get : Step Reader) := by
  intro reader _ after done kept
  cases done
  exact kept

theorem maintains_bind {first : Step α} {next : α → Step β} (maintainsFirst : Maintains holds first)
    (maintainsNext : ∀ value, Maintains holds (next value)) :
    Maintains holds (first >>= next) := by
  intro reader result after done kept
  obtain ⟨value, middle, doneFirst, doneNext⟩ := bind_eq_ok.mp done
  exact maintainsNext value middle result after doneNext
    (maintainsFirst reader value middle doneFirst kept)

theorem maintains_part (result : Except ParseCause α) : Maintains holds (part result) := by
  cases result with
  | ok value => exact maintains_pure value
  | error cause => exact maintains_throw cause

end Maintains

section Enduring

variable {holds : Reader → Prop} (enduring : Enduring holds)
include enduring

theorem maintains_perform {edit : Edit Float} (grows : edit.isRemoval = false) :
    Maintains holds (perform edit) := by
  intro reader created after done kept
  obtain ⟨outcome, applied, _, rfl⟩ := perform_eq_ok.mp done
  exact enduring _ grows applied kept

theorem maintains_performed {edit : Edit Float} (grows : edit.isRemoval = false) :
    Maintains holds (do let _ ← perform edit) :=
  maintains_bind (maintains_perform enduring grows) fun _ => maintains_pure ()

theorem maintains_setObjective (sense : Sense) (text : List Char) :
    Maintains holds (Reader.setObjective sense text) :=
  maintains_bind maintains_get fun _ => maintains_bind (maintains_part _) fun _ =>
    maintains_performed enduring rfl

theorem maintains_restrict (id : VariableId) (set : ConstraintSet Float) :
    Maintains holds (restrict id set) := by
  cases set with
  | interval lower upper =>
    exact maintains_bind (maintains_perform enduring rfl) fun _ =>
      maintains_performed enduring rfl
  | cone kind size => exact maintains_throw _
  | _ => exact maintains_performed enduring rfl

theorem maintains_addConstraint (name : Option (List Char)) (left : List Char)
    (set : ConstraintSet Float) : Maintains holds (Reader.addConstraint name left set) := by
  refine maintains_bind maintains_get fun _ => maintains_bind (maintains_part _) fun _ =>
    maintains_bind (maintains_part _) fun _ => maintains_bind maintains_get fun _ =>
      maintains_bind (maintains_perform enduring rfl) fun _ => ?_
  cases name with
  | some name => exact maintains_performed enduring rfl
  | none => exact maintains_pure ()

theorem maintains_relate (content : List Char) : Maintains holds (relate content) := by
  refine maintains_bind (maintains_part _) fun sides => maintains_bind maintains_get fun _ => ?_
  split
  · exact maintains_restrict enduring _ _
  · exact maintains_addConstraint enduring _ _ _

variable (declares : ∀ label, label ≠ [] → Maintains holds (declareOne label))
include declares

omit enduring in
theorem maintains_declare {labels : List (List Char)} (filled : ∀ label ∈ labels, label ≠ []) :
    Maintains holds (declare labels) := by
  induction labels with
  | nil => exact maintains_pure ()
  | cons label labels inductionHypothesis =>
    obtain ⟨here, later⟩ := List.forall_mem_cons.mp filled
    exact maintains_bind (declares label here) fun _ => inductionHypothesis later

theorem maintains_statement (content : List Char) : Maintains holds (statement content) := by
  unfold statement
  split
  · refine maintains_declare declares fun label member => ?_
    exact of_decide_eq_true (List.mem_filter.mp member).2
  · split
    · exact maintains_setObjective enduring _ _
    · split
      · exact maintains_setObjective enduring _ _
      · exact maintains_relate enduring _

/-- Run lemma: what declarations and changes maintain holds of every reader that lines
lead to. -/
theorem holds_of_readLines : ∀ (number : Nat) (lines : List (List Char)) (reader after : Reader),
    readLines number lines reader = .ok () after → holds reader → holds after
  | _, [], reader, after, done, kept => by
    cases done
    exact kept
  | number, line :: lines, reader, after, done, kept => by
    rw [readLines] at done
    split at done
    · exact holds_of_readLines (number + 1) lines reader after done kept
    · dsimp only at done
      split at done
      · rename_i middle doneLine
        exact holds_of_readLines (number + 1) lines middle after done
          (maintains_statement enduring declares _ reader () middle doneLine kept)
      · cases done

end Enduring

section Lasting

variable {holds : Model Float → Prop} (lasting : Lasting holds)
include lasting

theorem keeps_declareOne (label : List Char) : Keeps holds (declareOne label) := by
  have performs : ∀ {edit : Edit Float}, edit.isRemoval = false →
      Maintains (fun reader => holds reader.model) (perform edit) :=
    maintains_perform lasting.enduring
  have remember : ∀ id, Maintains (fun reader => holds reader.model) (modify fun reader : Reader =>
      { reader with labels := reader.labels ++ [(label, id)] } : Step Unit) := by
    intro id reader _ after done kept
    cases done
    exact kept
  unfold declareOne
  refine maintains_bind maintains_get fun reader => ?_
  dsimp only
  split
  · exact maintains_bind (maintains_throw _) fun _ => maintains_bind maintains_get fun _ =>
      maintains_bind (performs rfl) fun _ => by
        split
        · exact maintains_bind (performs rfl) fun _ => remember _
        · exact remember _
  · refine maintains_bind maintains_get fun _ => maintains_bind (performs rfl) fun _ => ?_
    split
    · exact maintains_bind (performs rfl) fun _ => remember _
    · exact remember _

theorem model_of_readLines (number : Nat) (lines : List (List Char)) (reader after : Reader)
    (done : readLines number lines reader = .ok () after) (kept : holds reader.model) :
    holds after.model :=
  holds_of_readLines lasting.enduring (fun label _ => keeps_declareOne lasting label) number lines
    reader after done kept

/-- A model that was read has every lasting property of the empty one. -/
theorem of_ofText (initial : holds .empty) {text : String} {model : Model Float}
    (accepted : ofText text = .ok model) : holds model := by
  unfold ofText at accepted
  split at accepted
  · rename_i reader done
    cases accepted
    obtain ⟨_, middle, doneLines, reported⟩ := bind_eq_ok.mp done
    cases reported
    exact model_of_readLines lasting 1 _ {} middle doneLines initial
  · cases accepted

end Lasting

end Reader

section Reading

variable {text : String} {reader : Reader}

theorem ofText_of_readLines
    (done : Reader.readLines 1 (text.toList.splitOn '\n') {} = .ok () reader) :
    ofText text = .ok reader.model := by
  have read : Reader.readText text {} = .ok () { reader with
      events := reader.events ++
        [.textRead reader.model.vars.size reader.model.constraints.size] } :=
    Reader.bind_eq_ok.mpr ⟨(), reader, done, rfl⟩
  unfold ofText
  rw [read]

theorem ofText_of_refused {error : ParseError}
    (refused : Reader.readLines 1 (text.toList.splitOn '\n') {} = .error error reader) :
    ofText text = .error error := by
  have read : Reader.readText text {} = .error error reader := by
    show EStateM.bind (Reader.readLines 1 (text.toList.splitOn '\n')) _ {} = _
    unfold EStateM.bind
    rw [refused]
  unfold ofText
  rw [read]

end Reading

/-! ## The invariant -/

/-- Reachable models have every property of the empty one that no change takes away. -/
theorem Reachable.of_lasting {holds : Model Float → Prop} (initial : holds .empty)
    (lasting : ∀ {model : Model Float} {edit : Edit Float} {outcome : Outcome Float},
      model.apply edit = .ok outcome → holds model → holds outcome.model)
    {model : Model Float} (reached : model.Reachable) : holds model := by
  induction reached with
  | empty => exact initial
  | read accepted =>
    have whileReading : Reader.Lasting holds := fun _ applied => lasting applied
    exact Reader.of_ofText whileReading initial accepted
  | attempt _ edit kept =>
    unfold Model.attempt
    split
    · rename_i outcome applied
      exact lasting applied kept
    · exact kept

/-- Reading a text leads to no model that changes of the empty one do not lead to. -/
theorem reachable_iff {model : Model Float} :
    model.Reachable ↔ ∃ edits : List (Edit Float), edits.foldl Model.attempt empty = model := by
  constructor
  · intro reached
    apply reached.of_lasting
    · exact ⟨[], rfl⟩
    · rintro _ edit outcome applied ⟨edits, rfl⟩
      refine ⟨edits ++ [edit], ?_⟩
      rw [List.foldl_append, List.foldl_cons, List.foldl_nil, Model.attempt, applied]
  · rintro ⟨edits, rfl⟩
    exact Reachable.empty.foldl_attempt edits

theorem Reachable.wellFormed {model : Model Float} (reached : model.Reachable) :
    model.WellFormed :=
  reached.of_lasting wellFormed_empty fun applied wellFormed => wellFormed.apply applied

end ConicModel.Model
