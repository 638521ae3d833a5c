import ConicModel.Proofs.Model.Evolution
import ConicModel.Proofs.Model.Reachable

/-!
Contract: what the generation tells about the models of one history.

Owns:
- models that are alike, which agree in everything but generation and metadata;
- idle changes, which succeed and change nothing else;
- the facts that a generation is never left by more than one step, never returned to, and
  belongs to one model up to metadata, along every run of changes.

Does not own: who compares generations.
-/

namespace ConicModel.Model

variable {K : Type}

/-! ## Models that are alike -/

structure Alike (left right : Model K) : Prop extends SameContent left right where
  nextVariable : left.vars.next = right.vars.next
  nextConstraint : left.constraints.next = right.constraints.next

theorem Alike.refl (model : Model K) : Alike model model :=
  ⟨.refl model, rfl, rfl⟩

theorem Alike.symm {left right : Model K} (alike : Alike left right) : Alike right left :=
  ⟨alike.toSameContent.symm, alike.nextVariable.symm, alike.nextConstraint.symm⟩

theorem Alike.trans {first second third : Model K} (left : Alike first second)
    (right : Alike second third) : Alike first third :=
  ⟨left.toSameContent.trans right.toSameContent, left.nextVariable.trans right.nextVariable,
    left.nextConstraint.trans right.nextConstraint⟩

/-! ## One change -/

/-- Changes that have nothing to change but metadata. -/
inductive Idle (model : Model K) : Edit K → Prop where
  | metadata (entity : EntityRef) (metadata : Json) : Idle model (.setMetadata entity metadata)
  | noObjective (absent : model.objective = none) : Idle model .clearObjective
  | noName (entity : EntityRef) (absent : model.name? entity = none) :
      Idle model (.setName entity "")
  | sameName (entity : EntityRef) (name : String) (same : model.name? entity = some name) :
      Idle model (.setName entity name)

section Change

variable [ExtendedNumber K] [Zero K] [BEq K] [Add K] {model : Model K} {edit : Edit K}
  {outcome : Outcome K}

/-- A change that is not idle leads to the next generation; an idle one stays in the
generation and leaves a model that is alike. -/
theorem WellFormed.generation_of_change (wellFormed : model.WellFormed)
    (change : Change model edit outcome) :
    (outcome.model.generation = model.generation + 1 ∧ ¬ Idle model edit) ∨
      (outcome.model.generation = model.generation ∧ Alike model outcome.model ∧
        Idle model edit) := by
  cases change with
  | clearObjective objective present =>
    refine .inl ⟨rfl, ?_⟩
    rintro ⟨⟩
    simp_all
  | clearNoObjective absent => exact .inr ⟨rfl, .refl model, .noObjective absent⟩
  | updateBounds _ id update asked found present bounds updated sound =>
    refine .inl ⟨rfl, ?_⟩
    rintro ⟨⟩ <;> cases asked
  | clearName entity live name named =>
    refine .inl ⟨by cases entity <;> rfl, ?_⟩
    intro idle
    cases idle with
    | noName _ absent => simp [absent] at named
    | sameName _ _ same =>
      -- No entity is named by the empty text, which is no name.
      exact absurd (wellFormed.isValidName_of_name? same) (by decide)
  | clearNoName entity live unnamed => exact .inr ⟨rfl, .refl model, .noName entity unnamed⟩
  | setName entity live name filled valid unheld =>
    refine .inl ⟨by cases entity <;> rfl, ?_⟩
    intro idle
    cases idle with
    | noName => exact filled rfl
    | sameName _ _ same => simp [wellFormed.holder?_eq_some.mpr same] at unheld
  | setSameName entity live name filled valid held =>
    exact .inr ⟨rfl, .refl model, .sameName entity name (wellFormed.holder?_eq_some.mp held)⟩
  | setVariableMetadata id metadata live =>
    exact .inr ⟨rfl, ⟨⟨(model.vars.bare_setMetadata id metadata).symm, rfl, rfl⟩, rfl, rfl⟩,
      .metadata _ metadata⟩
  | setConstraintMetadata id metadata live =>
    exact .inr ⟨rfl, ⟨⟨rfl, (model.constraints.bare_setMetadata id metadata).symm, rfl⟩, rfl, rfl⟩,
      .metadata _ metadata⟩
  | _ => exact .inl ⟨rfl, nofun⟩

/-- Whether it succeeds or not, what is asked for leads at most to the next generation, and
stays in the generation only with a model that is alike. -/
theorem WellFormed.generation_of_attempt (wellFormed : model.WellFormed) (edit : Edit K) :
    (model.attempt edit).generation = model.generation + 1 ∨
      ((model.attempt edit).generation = model.generation ∧ Alike model (model.attempt edit)) := by
  unfold attempt
  split
  · rename_i outcome applied
    rcases wellFormed.generation_of_change (change_of_apply applied) with
      ⟨next, _⟩ | ⟨stays, alike, _⟩
    · exact .inl next
    · exact .inr ⟨stays, alike⟩
  · exact .inr ⟨rfl, .refl model⟩

end Change

/-! ## Runs -/

/-- The model after the first `count` changes of a run were asked for. -/
def stage {K : Type} [ExtendedNumber K] [Zero K] [BEq K] [Add K] (start : Model K)
    (edits : List (Edit K)) (count : Nat) : Model K :=
  (edits.take count).foldl attempt start

section Runs

variable {start : Model Float}

theorem stage_succ (edits : List (Edit Float)) {count : Nat} {edit : Edit Float}
    (asked : edits[count]? = some edit) :
    start.stage edits (count + 1) = (start.stage edits count).attempt edit := by
  unfold stage
  rw [List.take_add_one, asked, List.foldl_append]
  rfl

theorem stage_end (edits : List (Edit Float)) {count : Nat} (ended : edits.length ≤ count) :
    start.stage edits (count + 1) = start.stage edits count := by
  unfold stage
  rw [List.take_of_length_le ended, List.take_of_length_le (by omega)]

theorem Reachable.at_stage (reached : start.Reachable) (edits : List (Edit Float)) (count : Nat) :
    (start.stage edits count).Reachable :=
  reached.foldl_attempt (edits.take count)

/-- From one stage to the next the generation rises by one, or only metadata changes. -/
theorem Reachable.generation_of_stage (reached : start.Reachable) (edits : List (Edit Float))
    (count : Nat) :
    (start.stage edits (count + 1)).generation =
        (start.stage edits count).generation + 1 ∨
      ((start.stage edits (count + 1)).generation =
          (start.stage edits count).generation ∧
        Alike (start.stage edits count) (start.stage edits (count + 1))) := by
  cases asked : edits[count]? with
  | none =>
    rw [stage_end edits (List.getElem?_eq_none_iff.mp asked)]
    exact .inr ⟨rfl, .refl _⟩
  | some edit =>
    rw [stage_succ edits asked]
    exact (reached.at_stage edits count).wellFormed.generation_of_attempt edit

/-- A later stage is of no earlier generation, and of the same one only if it is alike. -/
theorem Reachable.generation_of_later (reached : start.Reachable) (edits : List (Edit Float))
    (first : Nat) : ∀ later : Nat,
    (start.stage edits first).generation ≤
        (start.stage edits (first + later)).generation ∧
      ((start.stage edits first).generation =
          (start.stage edits (first + later)).generation →
        Alike (start.stage edits first) (start.stage edits (first + later))) := by
  intro later
  induction later with
  | zero => exact ⟨Nat.le_refl _, fun _ => .refl _⟩
  | succ later inductionHypothesis =>
    obtain ⟨grown, alike⟩ := inductionHypothesis
    rw [← Nat.add_assoc]
    rcases reached.generation_of_stage edits (first + later) with next | ⟨stays, last⟩
    · exact ⟨by omega, by omega⟩
    · refine ⟨by omega, ?_⟩
      intro same
      exact (alike (by omega)).trans last

/-- Along a run of changes the generation never falls and rises by at most one at a time.
Two models of the run are of the same generation only if they are alike, and a change that
succeeds stays in the generation exactly if it is idle. -/
theorem generation_of_run (reached : start.Reachable) (edits : List (Edit Float)) :
    (∀ first second, first ≤ second →
        (start.stage edits first).generation ≤ (start.stage edits second).generation) ∧
      (∀ count, (start.stage edits (count + 1)).generation ≤
        (start.stage edits count).generation + 1) ∧
      (∀ first second,
        (start.stage edits first).generation = (start.stage edits second).generation →
          Alike (start.stage edits first) (start.stage edits second)) ∧
      ∀ count edit outcome, edits[count]? = some edit →
        (start.stage edits count).apply edit = .ok outcome →
          ((start.stage edits (count + 1)).generation = (start.stage edits count).generation ↔
            Idle (start.stage edits count) edit) := by
  refine ⟨?_, ?_, ?_, ?_⟩
  · intro first second inOrder
    obtain ⟨later, rfl⟩ := Nat.exists_eq_add_of_le inOrder
    exact (reached.generation_of_later edits first later).1
  · intro count
    rcases reached.generation_of_stage edits count with next | ⟨stays, _⟩ <;> omega
  · intro first second same
    rcases Nat.le_total first second with inOrder | inOrder
    · obtain ⟨later, rfl⟩ := Nat.exists_eq_add_of_le inOrder
      exact (reached.generation_of_later edits first later).2 same
    · obtain ⟨later, rfl⟩ := Nat.exists_eq_add_of_le inOrder
      exact ((reached.generation_of_later edits second later).2 same.symm).symm
  · intro count edit outcome asked applied
    have wellFormed := (reached.at_stage edits count).wellFormed
    have result : start.stage edits (count + 1) = outcome.model := by
      rw [stage_succ edits asked]
      unfold attempt
      rw [applied]
    rw [result]
    rcases wellFormed.generation_of_change (change_of_apply applied) with
      ⟨next, busy⟩ | ⟨stays, _, idle⟩
    · exact ⟨by omega, fun idle => absurd idle busy⟩
    · exact ⟨fun _ => idle, fun _ => stays⟩

/-- Changes of which the third, the fourth and the fifth are idle and the sixth is refused. -/
def idlingEdits : List (Edit Float) :=
  [.addVariable .free .continuous,
    .setName (.var ⟨0⟩) "x",
    .setMetadata (.var ⟨0⟩) (.bool true),
    .setName (.var ⟨0⟩) "x",
    .clearObjective,
    .setName (.var ⟨0⟩) "in",
    .setName (.var ⟨0⟩) ""]

theorem generation_of_idlingEdits :
    (empty : Model Float).Reachable ∧
      ((empty.stage idlingEdits 2).generation = (empty.stage idlingEdits 6).generation ∧
        Alike (empty.stage idlingEdits 2) (empty.stage idlingEdits 6)) ∧
      (empty.stage idlingEdits 7).generation ≤ (empty.stage idlingEdits 6).generation + 1 ∧
      ¬ Alike (empty.stage idlingEdits 6) (empty.stage idlingEdits 7) := by
  obtain ⟨_, step, alike, _⟩ := generation_of_run .empty idlingEdits
  have same : (empty.stage idlingEdits 2).generation = (empty.stage idlingEdits 6).generation := by
    decide +kernel
  have named : (empty.stage idlingEdits 6).vars.entries.map (Entry.name ∘ Entry.bare) ≠
      (empty.stage idlingEdits 7).vars.entries.map (Entry.name ∘ Entry.bare) := by
    decide +kernel
  refine ⟨.empty, ⟨same, alike 2 6 same⟩, step 6, fun alike => named ?_⟩
  rw [← List.map_map, ← List.map_map, alike.vars]

end Runs

end ConicModel.Model
