import ConicModel.Proofs.Model.Change

/-!
Contract: what the generation of a model tells about its content.

Owns:
- the content of a model, which leaves metadata out;
- evolution: a later model is of no earlier generation, and of the same one only
  with the same content;
- the fact that a change is an evolution.

Does not own: who compares generations.
-/

namespace ConicModel

def Entry.bare {kind : EntityKind} {Content : Type} (entry : Entry kind Content) :
    Entry kind Content :=
  { entry with metadata := none }

theorem Registry.bare_setMetadata {kind : EntityKind} {Content : Type}
    (registry : Registry kind Content) (id : EntityId kind) (metadata : Json) :
    (registry.setMetadata id metadata).entries.map Entry.bare =
      registry.entries.map Entry.bare := by
  unfold setMetadata modify
  rw [List.map_map]
  apply List.map_congr_left
  intro entry _
  by_cases here : entry.id = id
  · simp [here, Entry.bare]
  · simp [here]

namespace Model

variable {K : Type}

/-- The same variables, constraints and names in the same order, and the same objective. -/
structure SameContent (left right : Model K) : Prop where
  vars : left.vars.entries.map Entry.bare = right.vars.entries.map Entry.bare
  constraints : left.constraints.entries.map Entry.bare = right.constraints.entries.map Entry.bare
  objective : left.objective = right.objective

theorem SameContent.refl (model : Model K) : SameContent model model :=
  ⟨rfl, rfl, rfl⟩

theorem SameContent.trans {first second third : Model K} (left : SameContent first second)
    (right : SameContent second third) : SameContent first third :=
  ⟨left.vars.trans right.vars, left.constraints.trans right.constraints,
    left.objective.trans right.objective⟩

theorem SameContent.symm {first second : Model K} (same : SameContent first second) :
    SameContent second first :=
  ⟨same.vars.symm, same.constraints.symm, same.objective.symm⟩

/-- A later model of the same history: the generation does not fall, and it stands still
only while the content does. -/
structure Evolves (before after : Model K) : Prop where
  grows : before.generation ≤ after.generation
  same : before.generation = after.generation → SameContent before after

theorem Evolves.refl (model : Model K) : Evolves model model :=
  ⟨Nat.le_refl _, fun _ => .refl model⟩

theorem Evolves.trans {first second third : Model K} (left : Evolves first second)
    (right : Evolves second third) : Evolves first third := by
  have before := left.grows
  have after := right.grows
  refine ⟨Nat.le_trans before after, ?_⟩
  intro equal
  exact (left.same (by omega)).trans (right.same (by omega))

theorem evolves_touch {model changed : Model K} (kept : changed.generation = model.generation) :
    Evolves model (touch changed) := by
  have next : (touch changed).generation = model.generation + 1 := congrArg (· + 1) kept
  constructor
  · omega
  · intro equal
    omega

variable [ExtendedNumber K] [Zero K] [BEq K] [Add K]

theorem Change.evolves {model : Model K} {edit : Edit K} {outcome : Outcome K}
    (change : Change model edit outcome) : Evolves model outcome.model := by
  cases change with
  | clearNoObjective absent => exact .refl model
  | clearNoName entity live unnamed => exact .refl model
  | setSameName entity live name filled valid held => exact .refl model
  | setVariableMetadata id metadata live =>
    exact ⟨Nat.le_refl _, fun _ => ⟨(model.vars.bare_setMetadata id metadata).symm, rfl, rfl⟩⟩
  | setConstraintMetadata id metadata live =>
    exact ⟨Nat.le_refl _,
      fun _ => ⟨rfl, (model.constraints.bare_setMetadata id metadata).symm, rfl⟩⟩
  | clearName entity live name named => cases entity <;> exact evolves_touch rfl
  | setName entity live name filled valid unheld => cases entity <;> exact evolves_touch rfl
  | _ => exact evolves_touch rfl

theorem evolves_of_apply {model : Model K} {edit : Edit K} {outcome : Outcome K}
    (applied : model.apply edit = .ok outcome) : Evolves model outcome.model :=
  (change_of_apply applied).evolves

end Model

end ConicModel
