import ConicModel.Proofs.Model.Consistency
import ConicModel.Proofs.Model.NameTable

/-!
Contract: names lead to the entities that have them, and only the changes that say so change them.

Owns:
- the names in a registry after each of its operations, and in a model after a change;
- when a name can be given, and when it leads to nothing;
- `NameTables.follow`, what a change of a model does to names kept in tables, and the fact that
  tables that followed a model from the start agree with it;
- `Model.NamesExact`, which puts these together, for every model that can be reached.

Does not own: how a table keeps its two maps inverse to each other.

All that a change can do to names is said once, by `Edit.renamed`.  What is said about names here
follows from it and from the invariant of models.
-/

namespace ConicModel

/-! ## Names in a registry -/

section Names

variable {kind : EntityKind} {Content : Type} (registry : Registry kind Content)

namespace Registry

theorem name?_add (content : Content) (id : EntityId kind) :
    (registry.add content).name? id = registry.name? id := by
  unfold name? entry? add
  rw [List.find?_append]
  cases registry.entries.find? fun entry => entry.id == id with
  | some entry => rfl
  | none =>
    rw [Option.none_or, List.find?_singleton]
    split <;> rfl

theorem name?_remove (dropped id : EntityId kind) :
    (registry.remove dropped).name? id = if id = dropped then none else registry.name? id := by
  unfold name? entry? remove
  rw [List.find?_filter]
  split
  · rename_i same
    rw [same, List.find?_eq_none.mpr fun entry _ => by simp]
    rfl
  · rename_i different
    congr 2
    funext entry
    by_cases here : entry.id = id <;> simp [here, different]

/-- The name of an entity is the one that a change of its entry gives. -/
theorem name?_modify (target : EntityId kind) {change : Entry kind Content → Entry kind Content}
    (sameId : ∀ entry, (change entry).id = entry.id) (id : EntityId kind) :
    (registry.modify target change).name? id = (registry.entry? id).bind fun entry =>
      if id = target then (change entry).name else entry.name := by
  have unmoved : (fun entry : Entry kind Content => entry.id == id) ∘
      (fun entry => if entry.id == target then change entry else entry) =
        fun entry => entry.id == id := by
    funext entry
    dsimp only [Function.comp]
    split
    · rw [sameId]
    · rfl
  unfold name? entry? modify
  rw [List.find?_map, unmoved, Option.bind_map]
  refine Option.bind_congr fun entry found => ?_
  have here : entry.id = id := (Registry.mem_of_entry?_eq found).2
  simp only [Function.comp, here, beq_iff_eq]
  split <;> rfl

/-- A change of an entry that keeps its name keeps all names. -/
theorem name?_modify_of_kept (target : EntityId kind)
    {change : Entry kind Content → Entry kind Content}
    (sameId : ∀ entry, (change entry).id = entry.id)
    (sameName : ∀ entry, (change entry).name = entry.name) (id : EntityId kind) :
    (registry.modify target change).name? id = registry.name? id := by
  rw [name?_modify registry target sameId]
  simp only [sameName, ite_self]
  rfl

theorem name?_setContent (target id : EntityId kind) (content : Content) :
    (registry.setContent target content).name? id = registry.name? id := by
  refine registry.name?_modify_of_kept target ?_ ?_ id
  · exact fun _ => rfl
  · exact fun _ => rfl

theorem name?_setMetadata (target id : EntityId kind) (metadata : Json) :
    (registry.setMetadata target metadata).name? id = registry.name? id := by
  refine registry.name?_modify_of_kept target ?_ ?_ id
  · exact fun _ => rfl
  · exact fun _ => rfl

theorem name?_mapContent (change : Content → Content) (id : EntityId kind) :
    (registry.mapContent change).name? id = registry.name? id := by
  unfold name? entry? mapContent
  rw [List.find?_map, Option.bind_map]
  rfl

variable {registry}

theorem name?_setName {target : EntityId kind} (live : registry.contains target = true)
    (given : Option String) (id : EntityId kind) :
    (registry.setName target given).name? id =
      if id = target then given else registry.name? id := by
  refine (registry.name?_modify target ?_ id).trans ?_
  · exact fun _ => rfl
  · split
    · rename_i same
      have present : (registry.entry? id).isSome = true := by
        unfold entry?
        rw [same, List.find?_isSome]
        exact List.any_eq_true.mp live
      obtain ⟨entry, found⟩ := Option.isSome_iff_exists.mp present
      rw [found]
      rfl
    · rfl

def names (registry : Registry kind Content) : List String :=
  registry.entries.filterMap Entry.name

theorem WellFormed.names_nodup (wellFormed : registry.WellFormed) : registry.names.Nodup := by
  refine List.Pairwise.filterMap _ ?_ wellFormed.distinctNames
  intro left right distinct name leftNamed other rightNamed same
  exact distinct name leftNamed (same ▸ rightNamed)

theorem length_names : registry.names.length = registry.namedCount := by
  unfold names namedCount
  rw [List.length_filterMap_eq_countP, List.countP_eq_length_filter]

theorem mem_names {name : String} :
    name ∈ registry.names ↔ (registry.holder? name).isSome = true := by
  unfold names holder?
  rw [Option.isSome_map, List.find?_isSome, List.mem_filterMap]
  simp only [beq_iff_eq]

end Registry

end Names

/-! ## Names in a model -/

namespace Model

variable {K : Type}

def names (model : Model K) : EntityKind → List String
  | .var => model.vars.names
  | .con => model.constraints.names

def Edit.renamed (edit : Edit K) (names : EntityRef → Option String) (other : EntityRef) :
    Option String :=
  match edit with
  | .setName entity name =>
    if other = entity then if name = "" then none else some name else names other
  | .remove entity => if other = entity then none else names other
  | _ => names other

theorem name?_putName {model : Model K} {entity : EntityRef}
    (live : model.contains entity = true) (given : Option String) (other : EntityRef) :
    (putName model entity given).name? other =
      if other = entity then given else model.name? other := by
  cases entity with
  | var id =>
    cases other with
    | var otherId =>
      simp only [EntityRef.var.injEq]
      exact Registry.name?_setName live given otherId
    | con otherId => rfl
  | con id =>
    cases other with
    | var otherId => rfl
    | con otherId =>
      simp only [EntityRef.con.injEq]
      exact Registry.name?_setName live given otherId

section Holders

variable [ExtendedNumber K] [Zero K] [BEq K] {model : Model K} (wellFormed : model.WellFormed)
include wellFormed

theorem WellFormed.holder?_eq_some_iff (kind : EntityKind) (name : String) (entity : EntityRef) :
    model.holder? kind name = some entity ↔
      entity.kind = kind ∧ model.name? entity = some name := by
  constructor
  · intro held
    obtain rfl := kind_of_holder? held
    exact ⟨rfl, wellFormed.holder?_eq_some.mp held⟩
  · rintro ⟨rfl, named⟩
    exact wellFormed.holder?_eq_some.mpr named

/-- A name leads to nothing if no entity of the kind has it. -/
theorem WellFormed.holder?_eq_none_iff (kind : EntityKind) (name : String) :
    model.holder? kind name = none ↔
      ∀ entity : EntityRef, entity.kind = kind → model.name? entity ≠ some name := by
  rw [Option.eq_none_iff_forall_ne_some]
  simp only [ne_eq, wellFormed.holder?_eq_some_iff, not_and]

/-- The names of one kind are as many as the entities that have one, differ, and lead to them. -/
theorem WellFormed.names_spec (kind : EntityKind) :
    (model.names kind).Nodup ∧ (model.names kind).length = model.namedCount kind ∧
      ∀ name, name ∈ model.names kind ↔ (model.holder? kind name).isSome = true := by
  cases kind with
  | var =>
    refine ⟨wellFormed.vars.names_nodup, Registry.length_names, fun name => ?_⟩
    exact Registry.mem_names.trans (by rw [holder?, Option.isSome_map])
  | con =>
    refine ⟨wellFormed.constraints.names_nodup, Registry.length_names, fun name => ?_⟩
    exact Registry.mem_names.trans (by rw [holder?, Option.isSome_map])

end Holders

variable [ExtendedNumber K] [Zero K] [BEq K] [Add K] {model : Model K}

/-- A change that is performed has the effect on names that it says. -/
theorem Change.names (wellFormed : model.WellFormed) {edit : Edit K} {outcome : Outcome K}
    (change : Change model edit outcome) (other : EntityRef) :
    outcome.model.name? other = edit.renamed model.name? other := by
  cases change with
  | addVariable bounds category sound =>
    cases other with
    | var id => exact model.vars.name?_add _ id
    | con id => rfl
  | addConstraint constraint valid live =>
    cases other with
    | var id => rfl
    | con id => exact model.constraints.name?_add _ id
  | setObjective sense expr finite live => cases other <;> rfl
  | clearObjective objective present => cases other <;> rfl
  | clearNoObjective absent => rfl
  | removeVariable id live =>
    cases other with
    | var otherId =>
      refine (model.vars.name?_remove id otherId).trans ?_
      simp only [Edit.renamed, EntityRef.var.injEq]
      rfl
    | con otherId => exact model.constraints.name?_mapContent _ otherId
  | removeConstraint id live =>
    cases other with
    | var otherId => rfl
    | con otherId =>
      refine (model.constraints.name?_remove id otherId).trans ?_
      simp only [Edit.renamed, EntityRef.con.injEq]
      rfl
  | updateBounds _ id update asked found present bounds updated sound =>
    have unnamed : edit.renamed model.name? other = model.name? other := by
      cases edit <;> first | rfl | cases asked
    rw [unnamed]
    cases other with
    | var otherId => exact model.vars.name?_setContent id otherId _
    | con otherId => rfl
  | setCategory id category found present =>
    cases other with
    | var otherId => exact model.vars.name?_setContent id otherId _
    | con otherId => rfl
  | clearName entity live name named => exact name?_putName live none other
  | clearNoName entity live unnamed =>
    simp only [Edit.renamed]
    split
    · rename_i same
      rw [same, unnamed]
      exact (if_pos trivial).symm
    · rfl
  | setName entity live name filled valid unheld =>
    refine (name?_putName live (some name) other).trans ?_
    simp only [Edit.renamed, if_neg filled]
  | setSameName entity live name filled valid held =>
    simp only [Edit.renamed, if_neg filled]
    split
    · rename_i same
      rw [same, wellFormed.holder?_eq_some.mp held]
    · rfl
  | setVariableMetadata id metadata live =>
    cases other with
    | var otherId => exact model.vars.name?_setMetadata id otherId metadata
    | con otherId => rfl
  | setConstraintMetadata id metadata live =>
    cases other with
    | var otherId => rfl
    | con otherId => exact model.constraints.name?_setMetadata id otherId metadata

theorem remove_isOk_iff {entity : EntityRef} :
    (∃ outcome, model.apply (.remove entity) = .ok outcome) ↔ model.contains entity = true := by
  constructor
  · rintro ⟨outcome, applied⟩
    cases change_of_apply applied with
    | updateBounds _ _ _ asked => cases asked
    | removeVariable _ live => exact live
    | removeConstraint _ live => exact live
  · intro live
    cases entity with
    | var id => exact ⟨_, (Change.removeVariable id live).apply_eq⟩
    | con id => exact ⟨_, (Change.removeConstraint id live).apply_eq⟩

section WellFormed

variable (wellFormed : model.WellFormed)
include wellFormed

/-- A live entity can be given the empty name, and any allowed name that no other entity of its
kind has. -/
theorem WellFormed.setName_isOk_iff (entity : EntityRef) (name : String) :
    (∃ outcome, model.apply (.setName entity name) = .ok outcome) ↔
      model.contains entity = true ∧ (name = "" ∨ isValidName name = true ∧
        ∀ other : EntityRef, other.kind = entity.kind → model.name? other = some name →
          other = entity) := by
  constructor
  · rintro ⟨outcome, applied⟩
    cases change_of_apply applied with
    | updateBounds _ _ _ asked => cases asked
    | clearName _ live _ _ => exact ⟨live, .inl rfl⟩
    | clearNoName _ live _ => exact ⟨live, .inl rfl⟩
    | setName _ live _ _ valid unheld =>
      refine ⟨live, .inr ⟨valid, fun other sameKind named => ?_⟩⟩
      exact absurd named ((wellFormed.holder?_eq_none_iff _ _).mp unheld other sameKind)
    | setSameName _ live _ _ valid held =>
      refine ⟨live, .inr ⟨valid, fun other sameKind named => ?_⟩⟩
      have otherHeld := (wellFormed.holder?_eq_some_iff _ _ _).mpr ⟨sameKind, named⟩
      exact Option.some.inj (otherHeld.symm.trans held)
  · rintro ⟨live, cleared | ⟨valid, only⟩⟩
    · subst cleared
      cases named : model.name? entity with
      | some old => exact ⟨_, (Change.clearName entity live old named).apply_eq⟩
      | none => exact ⟨_, (Change.clearNoName entity live named).apply_eq⟩
    · have filled : name ≠ "" := by
        rintro rfl
        exact absurd valid (by decide)
      cases held : model.holder? entity.kind name with
      | none => exact ⟨_, (Change.setName entity live name filled valid held).apply_eq⟩
      | some holder =>
        obtain ⟨sameKind, named⟩ := (wellFormed.holder?_eq_some_iff _ _ _).mp held
        obtain rfl := only holder sameKind named
        exact ⟨_, (Change.setSameName holder live name filled valid held).apply_eq⟩

/-! ## Free names -/

/-- A name that leads to nothing leads to something only after it was given. -/
theorem WellFormed.free_attempt {kind : EntityKind} {name : String}
    (free : model.holder? kind name = none) (edit : Edit K) :
    (model.attempt edit).holder? kind name = none ∨
      ∃ entity outcome, edit = .setName entity name ∧ entity.kind = kind ∧
        model.apply edit = .ok outcome := by
  cases applied : model.apply edit with
  | error cause =>
    rw [attempt_of_error applied]
    exact .inl free
  | ok outcome =>
    rw [attempt_of_ok applied]
    cases held : outcome.model.holder? kind name with
    | none => exact .inl rfl
    | some entity =>
      obtain ⟨sameKind, named⟩ := ((wellFormed.apply applied).holder?_eq_some_iff _ _ _).mp held
      have unnamed := (wellFormed.holder?_eq_none_iff kind name).mp free entity sameKind
      rw [(change_of_apply applied).names wellFormed entity] at named
      cases edit with
      | setName target given =>
        unfold Edit.renamed at named
        dsimp only at named
        split at named
        · rename_i same
          subst same
          split at named
          · cases named
          · cases named
            exact .inr ⟨entity, outcome, rfl, sameKind, rfl⟩
        · exact absurd named unnamed
      | remove target =>
        unfold Edit.renamed at named
        dsimp only at named
        split at named
        · cases named
        · exact absurd named unnamed
      | _ => exact absurd named unnamed

omit wellFormed in
theorem WellFormed.free_foldl_attempt {kind : EntityKind} {name : String} :
    ∀ (edits : List (Edit K)) {model : Model K}, model.WellFormed →
      model.holder? kind name = none →
      (edits.foldl Model.attempt model).holder? kind name = none ∨
        ∃ before entity after outcome, edits = before ++ .setName entity name :: after ∧
          entity.kind = kind ∧
          (before.foldl Model.attempt model).apply (.setName entity name) = .ok outcome
  | [], _, _, free => .inl free
  | edit :: edits, model, wellFormed, free => by
    rcases wellFormed.free_attempt free edit with still | ⟨entity, outcome, rfl, sameKind, applied⟩
    · rcases WellFormed.free_foldl_attempt edits (wellFormed.attempted edit) still with
        last | ⟨before, entity, after, outcome, rfl, sameKind, applied⟩
      · exact .inl last
      · exact .inr ⟨edit :: before, entity, after, outcome, rfl, sameKind, applied⟩
    · exact .inr ⟨[], entity, edits, outcome, rfl, sameKind, applied⟩

/-- What an entity was called before leads to nothing, unless it is still called so. -/
theorem WellFormed.free_of_renamed {edit : Edit K} {outcome : Outcome K}
    (applied : model.apply edit = .ok outcome) {entity : EntityRef} {old : String}
    (named : model.name? entity = some old)
    (others : ∀ other, other ≠ entity → outcome.model.name? other = model.name? other)
    (renamed : outcome.model.name? entity ≠ some old) :
    outcome.model.holder? entity.kind old = none := by
  refine ((wellFormed.apply applied).holder?_eq_none_iff _ _).mpr fun other sameKind again => ?_
  by_cases same : other = entity
  · exact renamed (same ▸ again)
  · rw [others other same, ← wellFormed.holder?_eq_some] at again
    rw [← wellFormed.holder?_eq_some, ← sameKind, again] at named
    exact same (Option.some.inj named)

end WellFormed

end Model

/-! ## Names in tables -/

namespace NameTables

variable {K : Type} [ExtendedNumber K] [Zero K] [BEq K] [Add K]

/-- What a change that is asked for does to names that are kept in tables.  A name is put in where
the tables do not lead to a holder. -/
def follow (tables : NameTables) (model : Model K) : Model.Edit K → NameTables
  | .setName entity name =>
    if !model.contains entity then tables
    else if name = "" then tables.remove entity
    else if !Model.isValidName name then tables
    else
      match tables.holder? entity.kind name with
      | some _ => tables
      | none => tables.insert entity name
  | .remove entity => if model.contains entity then tables.remove entity else tables
  | _ => tables

def followAll (tables : NameTables) : Model K → List (Model.Edit K) → NameTables
  | _, [] => tables
  | model, edit :: edits => (tables.follow model edit).followAll (model.attempt edit) edits

variable {tables : NameTables} {model : Model K}

/-- Tables that are changed as a change says it changes names still are those of the model. -/
theorem Mirrors.of_renamed (mirrors : tables.Mirrors model) (wellFormed : model.WellFormed)
    {edit : Model.Edit K} (performed : ∃ outcome, model.apply edit = .ok outcome)
    {after : NameTables} (inverse : after.Inverse)
    (renamed : ∀ other, after.name? other = edit.renamed tables.name? other) :
    after.Mirrors (model.attempt edit) := by
  obtain ⟨outcome, applied⟩ := performed
  rw [Model.attempt_of_ok applied]
  refine ⟨inverse, fun other => ?_⟩
  rw [renamed, (Model.change_of_apply applied).names wellFormed other, funext mirrors.names]

theorem Mirrors.of_refused (mirrors : tables.Mirrors model) {edit : Model.Edit K}
    (refused : ¬ ∃ outcome, model.apply edit = .ok outcome) :
    tables.Mirrors (model.attempt edit) := by
  cases applied : model.apply edit with
  | ok outcome => exact absurd ⟨outcome, applied⟩ refused
  | error cause => rwa [Model.attempt_of_error applied]

/-- A change that gives and takes no name leaves the tables as they are. -/
theorem Mirrors.of_unnamed (mirrors : tables.Mirrors model) (wellFormed : model.WellFormed)
    {edit : Model.Edit K} (same : ∀ other, edit.renamed tables.name? other = tables.name? other) :
    tables.Mirrors (model.attempt edit) := by
  by_cases performed : ∃ outcome, model.apply edit = .ok outcome
  · exact mirrors.of_renamed wellFormed performed mirrors.inverse fun other => (same other).symm
  · exact mirrors.of_refused performed

/-- The entity that is found under a name is the only one that can be given it, and keeps it. -/
theorem Mirrors.of_held (mirrors : tables.Mirrors model) (wellFormed : model.WellFormed)
    {entity holder : EntityRef} {name : String} (filled : name ≠ "")
    (held : tables.holder? entity.kind name = some holder) :
    tables.Mirrors (model.attempt (.setName entity name)) := by
  rw [(mirrors.agrees wellFormed).holders, wellFormed.holder?_eq_some_iff] at held
  obtain ⟨sameKind, named⟩ := held
  by_cases same : holder = entity
  · subst same
    refine mirrors.of_unnamed wellFormed fun other => ?_
    simp only [Model.Edit.renamed, if_neg filled]
    split
    · rename_i same
      rw [same, mirrors.names, named]
    · rfl
  · refine mirrors.of_refused fun performed => ?_
    rcases ((wellFormed.setName_isOk_iff entity name).mp performed).2 with cleared | ⟨_, only⟩
    · exact filled cleared
    · exact same (only holder sameKind named)

/-- Giving a name keeps the tables those of the model. -/
theorem Mirrors.follow_setName (mirrors : tables.Mirrors model) (wellFormed : model.WellFormed)
    (entity : EntityRef) (name : String) :
    (tables.follow model (.setName entity name)).Mirrors
      (model.attempt (.setName entity name)) := by
  have allowed := wellFormed.setName_isOk_iff entity name
  unfold NameTables.follow
  dsimp only
  split
  · rename_i absent
    refine mirrors.of_refused fun performed => ?_
    rw [(allowed.mp performed).1] at absent
    cases absent
  · rename_i live
    have live : model.contains entity = true := by simpa using live
    split
    · rename_i cleared
      subst cleared
      exact mirrors.of_renamed wellFormed (allowed.mpr ⟨live, .inl rfl⟩)
        (mirrors.inverse.remove entity) fun other => name?_remove entity other
    · rename_i filled
      split
      · rename_i invalid
        refine mirrors.of_refused fun performed => ?_
        rcases (allowed.mp performed).2 with cleared | ⟨valid, _⟩
        · exact filled cleared
        · rw [valid] at invalid
          cases invalid
      · rename_i valid
        have valid : Model.isValidName name = true := by simpa using valid
        split
        · rename_i holder held
          exact mirrors.of_held wellFormed filled held
        · rename_i unheld
          have free : model.holder? entity.kind name = none :=
            (mirrors.agrees wellFormed).holders entity.kind name ▸ unheld
          have unnamed := (wellFormed.holder?_eq_none_iff entity.kind name).mp free
          refine mirrors.of_renamed wellFormed (allowed.mpr ⟨live, .inr ⟨valid, ?_⟩⟩)
            (mirrors.inverse.insert unheld) fun other => ?_
          · exact fun other sameKind named => absurd named (unnamed other sameKind)
          · rw [name?_insert]
            simp only [Model.Edit.renamed, if_neg filled]

/-- One change keeps the tables those of the model. -/
theorem Mirrors.follow (mirrors : tables.Mirrors model) (wellFormed : model.WellFormed)
    (edit : Model.Edit K) : (tables.follow model edit).Mirrors (model.attempt edit) := by
  cases edit with
  | setName entity name => exact mirrors.follow_setName wellFormed entity name
  | remove entity =>
    unfold NameTables.follow
    dsimp only
    split
    · rename_i live
      exact mirrors.of_renamed wellFormed (Model.remove_isOk_iff.mpr live)
        (mirrors.inverse.remove entity) fun other => name?_remove entity other
    · rename_i absent
      exact mirrors.of_refused fun performed => absent (Model.remove_isOk_iff.mp performed)
  | _ => exact mirrors.of_unnamed wellFormed fun _ => rfl

/-- Tables that follow a model through changes stay those of the model. -/
theorem Mirrors.followAll :
    ∀ (edits : List (Model.Edit K)) {tables : NameTables} {model : Model K},
      tables.Mirrors model → model.WellFormed →
        (tables.followAll model edits).Mirrors (edits.foldl Model.attempt model)
  | [], _, _, mirrors, _ => mirrors
  | edit :: edits, _, _, mirrors, wellFormed =>
    Mirrors.followAll edits (mirrors.follow wellFormed edit) (wellFormed.attempted edit)

end NameTables

/-! ## Exact names -/

/-- Names are those that were asked for, in both directions and in both kinds. -/
structure Model.NamesExact (model : Model Float) : Prop where
  /-- A name leads to the one entity of the kind that has it. -/
  held : ∀ kind name entity, model.holder? kind name = some entity ↔
    entity.kind = kind ∧ model.name? entity = some name
  /-- The number of named entities is the number of names that lead to one. -/
  counted : ∀ kind, (model.names kind).Nodup ∧
    (model.names kind).length = model.namedCount kind ∧
      ∀ name, name ∈ model.names kind ↔ (model.holder? kind name).isSome = true
  /-- Names kept in two maps, through whatever changes led to the model, say the same. -/
  kept : ∀ edits : List (Edit Float), edits.foldl Model.attempt empty = model →
    (NameTables.followAll {} empty edits).Agrees model
  /-- A name can be given to a live entity if it is empty, or is allowed and not the name of
  another entity of the kind. -/
  givable : ∀ entity name, (∃ outcome, model.apply (.setName entity name) = .ok outcome) ↔
    model.contains entity = true ∧ (name = "" ∨ isValidName name = true ∧
      ∀ other : EntityRef, other.kind = entity.kind → model.name? other = some name →
        other = entity)
  /-- Giving a name frees the one before, and changes no other. -/
  given : ∀ entity name outcome, model.apply (.setName entity name) = .ok outcome →
    outcome.model.name? entity = (if name = "" then none else some name) ∧
      (∀ old, model.name? entity = some old → old ≠ name →
        outcome.model.holder? entity.kind old = none) ∧
      ∀ other, other ≠ entity → outcome.model.name? other = model.name? other
  /-- The name of a removed entity leads to nothing until it is given again. -/
  freed : ∀ entity name outcome, model.apply (.remove entity) = .ok outcome →
    model.name? entity = some name → ∀ edits : List (Edit Float),
      (edits.foldl Model.attempt outcome.model).holder? entity.kind name = none ∨
        ∃ before other after result, edits = before ++ .setName other name :: after ∧
          other.kind = entity.kind ∧
          (before.foldl Model.attempt outcome.model).apply (.setName other name) = .ok result

/-- Names are exact in every model that can be reached. -/
theorem Model.namesExact_of_reachable {model : Model Float} (reached : model.Reachable) :
    model.NamesExact := by
  have wellFormed := reached.wellFormed
  refine ⟨wellFormed.holder?_eq_some_iff, wellFormed.names_spec, ?_, wellFormed.setName_isOk_iff,
    ?_, ?_⟩
  · rintro edits rfl
    exact (NameTables.mirrors_empty.followAll edits wellFormed_empty).agrees wellFormed
  · intro entity name outcome applied
    have names := (change_of_apply applied).names wellFormed
    have own : outcome.model.name? entity = if name = "" then none else some name :=
      (names entity).trans (if_pos rfl)
    have others : ∀ other, other ≠ entity → outcome.model.name? other = model.name? other :=
      fun other different => (names other).trans (if_neg different)
    refine ⟨own, fun old named different => ?_, others⟩
    refine wellFormed.free_of_renamed applied named others ?_
    rw [own]
    split
    · exact nofun
    · exact fun same => different (Option.some.inj same).symm
  · intro entity name outcome applied named edits
    have names := (change_of_apply applied).names wellFormed
    have own : outcome.model.name? entity = none := (names entity).trans (if_pos rfl)
    have others : ∀ other, other ≠ entity → outcome.model.name? other = model.name? other :=
      fun other different => (names other).trans (if_neg different)
    have free : outcome.model.holder? entity.kind name = none :=
      wellFormed.free_of_renamed applied named others (by rw [own]; exact nofun)
    exact WellFormed.free_foldl_attempt edits (wellFormed.apply applied) free

def Model.renamingEdits : List (Edit Float) :=
  [.addVariable .free .continuous, .addVariable .free .continuous, .setName (.var ⟨0⟩) "flow",
    .setName (.var ⟨1⟩) "load", .setName (.var ⟨0⟩) "supply"]

theorem Model.namesExact_renamingEdits :
    let model := renamingEdits.foldl Model.attempt empty
    model.Reachable ∧ model.holder? .var "load" = some (.var ⟨1⟩) ∧
      (∃ outcome, model.apply (.setName (.var ⟨1⟩) "flow") = .ok outcome) ∧
      ¬ ∃ outcome, model.apply (.setName (.var ⟨1⟩) "supply") = .ok outcome := by
  intro model
  have reached : model.Reachable := Reachable.empty.foldl_attempt renamingEdits
  have names := namesExact_of_reachable reached
  refine ⟨reached, (names.held .var "load" (.var ⟨1⟩)).mpr ⟨rfl, rfl⟩, ?_, ?_⟩
  · refine (names.givable (.var ⟨1⟩) "flow").mpr ⟨rfl, .inr ⟨by decide +kernel, ?_⟩⟩
    intro other sameKind named
    have held := (names.held .var "flow" other).mpr ⟨sameKind, named⟩
    cases held
  · intro given
    rcases ((names.givable (.var ⟨1⟩) "supply").mp given).2 with cleared | ⟨_, only⟩
    · exact absurd cleared (by decide)
    · exact absurd (only (.var ⟨0⟩) rfl rfl) (by decide)

end ConicModel
