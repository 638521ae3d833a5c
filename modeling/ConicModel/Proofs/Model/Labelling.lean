import ConicModel.Proofs.Model.Label
import ConicModel.Proofs.Model.Numbering

/-!
Contract: the labels that declarations accept, and the variables they stand for.

Owns:
- the spelling of accepted labels;
- what one declaration does to the table of labels and to the variables;
- the invariant of readers: every label is well spelled and stands for a live
  variable;
- the reader that lines lead to, as something to compute with.

Does not own: what other lines make of the labels.

Reading removes nothing, so a label stands for its variable to the end of the
text.
-/

namespace ConicModel.Model

/-! ## Spelling -/

/-- A label of at least one character, all of which names may have. -/
structure Spelled (label : List Char) : Prop where
  filled : label ≠ []
  chars : ∀ character ∈ label, isNameChar character = true

theorem isNameChar_of_isDigit {character : Char} (digit : character.isDigit = true) :
    isNameChar character = true := by
  simp [isNameChar, Char.isAlphanum, digit]

theorem Spelled.token {label : List Char} (spelled : Spelled label) : Text.Token label where
  filled := spelled.filled
  solid character member := not_isBlank_of_isFactorChar
    (isFactorChar_of_isNameChar (spelled.chars character member))

theorem Spelled.not_mem {label : List Char} (spelled : Spelled label) {character : Char}
    (outside : isNameChar character = false) : character ∉ label :=
  Text.not_mem_of_class spelled.chars outside

theorem spelled_of_isValidName {label : List Char}
    (valid : isValidName (String.ofList label) = true) : Spelled label := by
  obtain ⟨_, first, others, letters, _, chars⟩ := valid_name valid
  rw [String.toList_ofList] at letters chars
  exact ⟨letters ▸ List.cons_ne_nil _ _, chars⟩

theorem spelled_of_isUnnamed {label : List Char} (unnamed : Reader.isUnnamed label = true) :
    Spelled label := by
  unfold Reader.isUnnamed at unnamed
  split at unnamed
  · rename_i digits found
    rw [Text.eq_append_of_afterLiteral found]
    refine ⟨by simp, ?_⟩
    simp only [Bool.and_eq_true, List.all_eq_true] at unnamed
    rw [List.forall_mem_append]
    exact ⟨by decide, fun character member => isNameChar_of_isDigit (unnamed.2 character member)⟩
  · cases unnamed

namespace Reader

/-! ## One declaration -/

section Ids

variable {model : Model Float} {outcome : Outcome Float} {edit : Edit Float}

/-- A change that neither adds nor removes a variable keeps the list of variables. -/
theorem ids_of_apply (applied : model.apply edit = .ok outcome) (grows : edit.isRemoval = false)
    (other : edit.adds ≠ some .var) : outcome.model.vars.ids = model.vars.ids := by
  rcases (change_of_apply applied).numbers .var with ⟨adds, _⟩ | ⟨_, retains⟩
  · exact absurd adds other
  · have listed := retains.same grows
    exact List.map_injective_iff.mpr (fun _ _ => EntityRef.var.inj) listed

theorem subset_ids_of_apply (applied : model.apply edit = .ok outcome)
    (grows : edit.isRemoval = false) : model.vars.ids ⊆ outcome.model.vars.ids := by
  intro id member
  have listed : EntityRef.var id ∈ model.entities .var := List.mem_map_of_mem member
  have kept : EntityRef.var id ∈ outcome.model.entities .var := by
    rcases (change_of_apply applied).numbers .var with ⟨_, appends⟩ | ⟨_, retains⟩
    · rw [appends.entities]
      exact List.mem_append_left _ listed
    · rwa [retains.same grows]
  exact Registry.contains_iff.mp (contains_iff_mem.mpr kept)

end Ids

section Declaration

variable {label : List Char} {reader after : Reader}

/-- A name that was given to a variable is valid, or it is empty and was none. -/
theorem valid_of_setName {model : Model Float} {outcome : Outcome Float} {entity : EntityRef}
    {name : String} (applied : model.apply (.setName entity name) = .ok outcome)
    (filled : name ≠ "") : isValidName name = true := by
  cases change_of_apply applied with
  | clearName => exact absurd rfl filled
  | clearNoName => exact absurd rfl filled
  | setName _ _ _ _ valid => exact valid
  | setSameName _ _ _ _ valid => exact valid
  | updateBounds _ _ _ asked => cases asked

/-- Step lemma: a declaration that succeeds adds one variable, under a label that is well
spelled. -/
theorem declareOne_eq_ok (filled : label ≠ []) (done : declareOne label reader = .ok () after) :
    Spelled label ∧ after.labels = reader.labels ++ [(label, reader.model.vars.nextId)] ∧
      after.model.vars.ids = reader.model.vars.ids ++ [reader.model.vars.nextId] := by
  unfold declareOne at done
  obtain ⟨_, _, got, rest⟩ := bind_eq_ok.mp done
  cases got
  split at rest
  · obtain ⟨_, _, impossible, _⟩ := bind_eq_ok.mp rest
    cases impossible
  · obtain ⟨_, _, got, rest⟩ := bind_eq_ok.mp rest
    cases got
    obtain ⟨created, added, addition, rest⟩ := bind_eq_ok.mp rest
    obtain ⟨outcome, applied, _, rfl⟩ := perform_eq_ok.mp addition
    have ids : outcome.model.vars.ids = reader.model.vars.ids ++ [reader.model.vars.nextId] := by
      cases change_of_apply applied with
      | addVariable => exact reader.model.vars.ids_add _
      | updateBounds _ _ _ asked => cases asked
    split at rest
    · obtain ⟨_, _, naming, rest⟩ := bind_eq_ok.mp rest
      obtain ⟨named, appliedName, _, rfl⟩ := perform_eq_ok.mp naming
      cases rest
      refine ⟨spelled_of_isValidName (valid_of_setName appliedName ?_), rfl, ?_⟩
      · rw [Ne, String.ofList_eq_empty_iff]
        exact filled
      · exact (ids_of_apply appliedName rfl nofun).trans ids
    · rename_i unnamed
      cases rest
      refine ⟨spelled_of_isUnnamed ?_, rfl, ids⟩
      simpa using unnamed

end Declaration

/-! ## The table of labels -/

/-- Every label is well spelled and stands for a live variable. -/
structure Labelled (reader : Reader) : Prop where
  spelled : ∀ entry ∈ reader.labels, Spelled entry.1
  live : ∀ entry ∈ reader.labels, entry.2 ∈ reader.model.vars.ids

theorem labelled_empty : Labelled {} :=
  ⟨nofun, nofun⟩

theorem enduring_labelled : Enduring Labelled := by
  intro reader edit outcome events grows applied labelled
  refine ⟨labelled.spelled, fun entry member => ?_⟩
  exact subset_ids_of_apply applied grows (labelled.live entry member)

theorem maintains_labelled {label : List Char} (filled : label ≠ []) :
    Maintains Labelled (declareOne label) := by
  intro reader _ after done labelled
  obtain ⟨spelled, labels, ids⟩ := declareOne_eq_ok filled done
  constructor
  · rw [labels, List.forall_mem_append, List.forall_mem_singleton]
    exact ⟨labelled.spelled, spelled⟩
  · rw [labels, ids, List.forall_mem_append, List.forall_mem_singleton]
    refine ⟨fun entry member => ?_, by simp⟩
    exact List.mem_append_left _ (labelled.live entry member)

/-- Lines that are accepted lead to a table of well spelled labels of live variables. -/
theorem labelled_of_readLines {number : Nat} {lines : List (List Char)} {reader : Reader}
    (run : readLines number lines {} = .ok () reader) : Labelled reader :=
  holds_of_readLines enduring_labelled (fun _ filled => maintains_labelled filled) number lines {}
    reader run labelled_empty

theorem mem_of_lookup {labels : List (List Char × VariableId)} {label : List Char}
    {id : VariableId} (found : lookup labels label = some id) : (label, id) ∈ labels := by
  obtain ⟨⟨known, _⟩, present, rfl⟩ := Option.map_eq_some_iff.mp found
  have same := List.find?_some present
  obtain rfl : known = label := beq_iff_eq.mp same
  exact List.mem_of_find?_eq_some present

section Lookup

variable {reader : Reader} (labelled : Labelled reader) {label : List Char} {id : VariableId}
  (found : lookup reader.labels label = some id)
include labelled found

theorem Labelled.spelled_of_lookup : Spelled label :=
  labelled.spelled _ (mem_of_lookup found)

theorem Labelled.live_of_lookup : id ∈ reader.model.vars.ids :=
  labelled.live _ (mem_of_lookup found)

end Lookup

/-! ## Given lines -/

/-- What has been read when lines are read from the first one on, up to the first that is
refused. -/
def ofLines (lines : List (List Char)) : Reader :=
  match readLines 1 lines {} with
  | .ok () reader => reader
  | .error _ reader => reader

def accepts (lines : List (List Char)) : Bool :=
  match readLines 1 lines {} with
  | .ok () _ => true
  | .error _ _ => false

theorem readLines_ofLines {lines : List (List Char)} (accepted : accepts lines = true) :
    readLines 1 lines {} = .ok () (ofLines lines) := by
  unfold accepts at accepted
  unfold ofLines
  split at accepted
  · rename_i reader run
    rw [run]
  · cases accepted

end Reader

end ConicModel.Model
