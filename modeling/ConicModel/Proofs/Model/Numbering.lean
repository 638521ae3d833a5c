import ConicModel.Proofs.Model.Reachable
import Mathlib.Data.List.Sort

/-!
Contract: which ids the additions of a run hand out, and which of them are live afterwards.

Owns:
- the models that a run starts with, which have lost nothing yet;
- the additions among what came of a run;
- the numbering of a run: its additions count on from what was there, and the live entities
  are listed in the order in which they were added;
- the fact that what was removed is gone for good.

Does not own: names, or what the entities are.
-/

namespace ConicModel

/-! ## Ids of one registry -/

namespace Registry

variable {kind : EntityKind} {Content : Type} {registry : Registry kind Content}

theorem WellFormed.number_lt (wellFormed : registry.WellFormed) {id : EntityId kind}
    (live : id ∈ registry.ids) : id.number < registry.next := by
  obtain ⟨entry, member, rfl⟩ := List.mem_map.mp live
  exact wellFormed.below entry member

/-- The live ids are what is left of all that were handed out, in their order. -/
theorem WellFormed.ids_eq_filter (wellFormed : registry.WellFormed) :
    registry.ids = ((List.range registry.next).map EntityId.mk).filter registry.contains := by
  have irrefl : Std.Irrefl fun left right : EntityId kind => left.number < right.number :=
    ⟨fun _ => Nat.lt_irrefl _⟩
  have antisymm : Std.Antisymm fun left right : EntityId kind => left.number < right.number :=
    ⟨fun _ _ below above => absurd below (Nat.lt_asymm above)⟩
  have handedOut : ((List.range registry.next).map (EntityId.mk : Nat → EntityId kind)).Pairwise
      fun left right => left.number < right.number :=
    List.pairwise_map.mpr List.pairwise_lt_range
  refine wellFormed.ids_increasing.eq_of_mem_iff (handedOut.filter _) fun id => ?_
  rw [List.mem_filter, contains_iff]
  refine ⟨fun live => ⟨?_, live⟩, And.right⟩
  exact List.mem_map.mpr ⟨id.number, List.mem_range.mpr (wellFormed.number_lt live), rfl⟩

/-- The same for references to the entities. -/
theorem WellFormed.map_ids_eq_filter (wellFormed : registry.WellFormed)
    {refer : EntityId kind → EntityRef} {live : EntityRef → Bool}
    (agrees : ∀ id, live (refer id) = registry.contains id) :
    registry.ids.map refer =
      ((List.range registry.next).map fun number => refer ⟨number⟩).filter live := by
  have sameTest : registry.contains = live ∘ refer := funext fun id => (agrees id).symm
  have split : ((List.range registry.next).map fun number => refer ⟨number⟩) =
      ((List.range registry.next).map EntityId.mk).map refer := List.map_map.symm
  rw [split, wellFormed.ids_eq_filter, sameTest]
  exact List.filter_map.symm

end Registry

def EntityKind.ref : EntityKind → Nat → EntityRef
  | .var, number => .var ⟨number⟩
  | .con, number => .con ⟨number⟩

theorem EntityKind.ref_injective (kind : EntityKind) : Function.Injective kind.ref := by
  intro left right same
  cases kind <;> (cases same; rfl)

namespace Model

variable {K : Type}

/-! ## Entities of one kind -/

def entities (model : Model K) : EntityKind → List EntityRef
  | .var => model.vars.ids.map .var
  | .con => model.constraints.ids.map .con

def added (model : Model K) : EntityKind → Nat
  | .var => model.vars.next
  | .con => model.constraints.next

theorem contains_iff_mem {model : Model K} {entity : EntityRef} :
    model.contains entity = true ↔ entity ∈ model.entities entity.kind := by
  cases entity with
  | var id =>
    have mapped : EntityRef.var id ∈ model.vars.ids.map .var ↔ id ∈ model.vars.ids :=
      List.mem_map_of_injective fun _ _ => EntityRef.var.inj
    exact Registry.contains_iff.trans mapped.symm
  | con id =>
    have mapped : EntityRef.con id ∈ model.constraints.ids.map .con ↔ id ∈ model.constraints.ids :=
      List.mem_map_of_injective fun _ _ => EntityRef.con.inj
    exact Registry.contains_iff.trans mapped.symm

section WellFormed

variable [ExtendedNumber K] [Zero K] [BEq K] {model : Model K} (wellFormed : model.WellFormed)
include wellFormed

theorem entities_eq_filter (kind : EntityKind) :
    model.entities kind =
      ((List.range (model.added kind)).map kind.ref).filter model.contains := by
  cases kind with
  | var => exact wellFormed.vars.map_ids_eq_filter fun _ => rfl
  | con => exact wellFormed.constraints.map_ids_eq_filter fun _ => rfl

end WellFormed

/-! ## One change -/

def Edit.adds : Edit K → Option EntityKind
  | .addVariable _ _ => some .var
  | .addConstraint _ => some .con
  | _ => none

/-- An addition hands out the next id of the kind and lists it last. -/
structure Appends (kind : EntityKind) (model : Model K) (outcome : Outcome K) : Prop where
  created : outcome.created = some (kind.ref (model.added kind))
  added : outcome.model.added kind = model.added kind + 1
  entities : outcome.model.entities kind = model.entities kind ++ [kind.ref (model.added kind)]

/-- Nothing of the kind is added, and only a removal takes something away. -/
structure Retains (kind : EntityKind) (model : Model K) (edit : Edit K) (after : Model K) :
    Prop where
  added : after.added kind = model.added kind
  entities : after.entities kind ⊆ model.entities kind
  same : edit.isRemoval = false → after.entities kind = model.entities kind

theorem Retains.of_listed {kind : EntityKind} {model after : Model K} {edit : Edit K}
    (added : after.added kind = model.added kind)
    (listed : after.entities kind = model.entities kind) : Retains kind model edit after :=
  ⟨added, List.Subset.trans (fun _ member => listed ▸ member) (List.Subset.refl _),
    fun _ => listed⟩

/-- Nothing is added or taken away where the registries list the same ids. -/
theorem retains_of_same {kind : EntityKind} {model after : Model K} {edit : Edit K}
    (vars : after.vars.ids = model.vars.ids) (nextVariable : after.vars.next = model.vars.next)
    (constraints : after.constraints.ids = model.constraints.ids)
    (nextConstraint : after.constraints.next = model.constraints.next) :
    Retains kind model edit after := by
  have same : after.entities kind = model.entities kind := by
    cases kind with
    | var => exact congrArg _ vars
    | con => exact congrArg _ constraints
  refine .of_listed ?_ same
  cases kind with
  | var => exact nextVariable
  | con => exact nextConstraint

theorem retains_putName {kind : EntityKind} {model : Model K} {edit : Edit K}
    (entity : EntityRef) (name : Option String) :
    Retains kind model edit (touch (putName model entity name)) := by
  cases entity with
  | var id => exact retains_of_same (model.vars.ids_setName id name) rfl rfl rfl
  | con id => exact retains_of_same rfl rfl (model.constraints.ids_setName id name) rfl

section Change

variable [ExtendedNumber K] [Zero K] [BEq K] [Add K] {model : Model K} {edit : Edit K}
  {outcome : Outcome K}

/-- Step lemma: a change adds one entity of the kind, or it adds none. -/
theorem Change.numbers (change : Change model edit outcome) (kind : EntityKind) :
    (edit.adds = some kind ∧ Appends kind model outcome) ∨
      (edit.adds ≠ some kind ∧ Retains kind model edit outcome.model) := by
  cases change with
  | addVariable bounds category sound =>
    cases kind with
    | var =>
      refine .inl ⟨rfl, rfl, rfl, ?_⟩
      exact (congrArg _ (model.vars.ids_add _)).trans List.map_append
    | con => exact .inr ⟨nofun, .of_listed rfl rfl⟩
  | addConstraint constraint valid live =>
    cases kind with
    | var => exact .inr ⟨nofun, .of_listed rfl rfl⟩
    | con =>
      refine .inl ⟨rfl, rfl, rfl, ?_⟩
      exact (congrArg _ (model.constraints.ids_add _)).trans List.map_append
  | removeVariable id live =>
    refine .inr ⟨nofun, ?_⟩
    cases kind with
    | var =>
      refine ⟨rfl, List.map_subset _ fun other left => ?_, nofun⟩
      exact (model.vars.mem_ids_remove.mp left).1
    | con => exact .of_listed rfl (congrArg _ (model.constraints.ids_mapContent _))
  | removeConstraint id live =>
    refine .inr ⟨nofun, ?_⟩
    cases kind with
    | var => exact .of_listed rfl rfl
    | con =>
      refine ⟨rfl, List.map_subset _ fun other left => ?_, nofun⟩
      exact (model.constraints.mem_ids_remove.mp left).1
  | updateBounds _ id update asked found present bounds updated sound =>
    refine .inr ⟨?_, retains_of_same (model.vars.ids_setContent _ _) rfl rfl rfl⟩
    cases edit <;> cases asked <;> exact nofun
  | setCategory id category found present =>
    exact .inr ⟨nofun, retains_of_same (model.vars.ids_setContent _ _) rfl rfl rfl⟩
  | clearName entity live name named => exact .inr ⟨nofun, retains_putName entity none⟩
  | setName entity live name filled valid unheld =>
    exact .inr ⟨nofun, retains_putName entity (some name)⟩
  | setVariableMetadata id metadata live =>
    exact .inr ⟨nofun, retains_of_same (model.vars.ids_setMetadata _ _) rfl rfl rfl⟩
  | setConstraintMetadata id metadata live =>
    exact .inr ⟨nofun, retains_of_same rfl rfl (model.constraints.ids_setMetadata _ _) rfl⟩
  | _ => exact .inr ⟨nofun, retains_of_same rfl rfl rfl rfl⟩

end Change

/-! ## What is gone -/

structure Gone (entity : EntityRef) (model : Model K) : Prop where
  old : entity ∈ (List.range (model.added entity.kind)).map entity.kind.ref
  dead : entity ∉ model.entities entity.kind

theorem Gone.not_contains {entity : EntityRef} {model : Model K} (gone : Gone entity model) :
    model.contains entity = false :=
  Bool.eq_false_iff.mpr fun live => gone.dead (contains_iff_mem.mp live)

section Gone

variable [ExtendedNumber K] [Zero K] [BEq K] [Add K] {model : Model K} {edit : Edit K}
  {outcome : Outcome K} {entity : EntityRef}

/-- Step lemma: no change brings back what is gone, since additions hand out later ids. -/
theorem Gone.change (gone : Gone entity model) (change : Change model edit outcome) :
    Gone entity outcome.model := by
  obtain ⟨number, before, same⟩ := List.mem_map.mp gone.old
  rcases change.numbers entity.kind with ⟨_, appends⟩ | ⟨_, retains⟩
  · constructor
    · rw [appends.added, List.range_succ, List.map_append]
      exact List.mem_append_left _ gone.old
    · rw [appends.entities]
      refine List.not_mem_append gone.dead fun new => ?_
      have next : number = model.added entity.kind :=
        entity.kind.ref_injective (same.trans (List.mem_singleton.mp new))
      exact absurd (List.mem_range.mp before) (by omega)
  · exact ⟨retains.added ▸ gone.old, fun live => gone.dead (retains.entities live)⟩

theorem Gone.attempt (gone : Gone entity model) (edit : Edit K) :
    Gone entity (model.attempt edit) := by
  cases applied : model.apply edit with
  | error cause => rwa [attempt_of_error applied]
  | ok outcome =>
    rw [attempt_of_ok applied]
    exact gone.change (change_of_apply applied)

/-- Run lemma: what is gone stays gone. -/
theorem Gone.foldl_attempt : ∀ (edits : List (Edit K)) {model : Model K}, Gone entity model →
    Gone entity (edits.foldl Model.attempt model)
  | [], _, gone => gone
  | edit :: edits, _, gone => Gone.foldl_attempt edits (gone.attempt edit)

/-- Only what is live is removed, and it is not live any more. -/
theorem contains_of_remove (removed : model.apply (.remove entity) = .ok outcome) :
    model.contains entity = true ∧ outcome.model.contains entity = false := by
  cases change_of_apply removed with
  | removeVariable id live =>
    refine ⟨live, Bool.eq_false_iff.mpr fun left => ?_⟩
    exact (model.vars.mem_ids_remove.mp (Registry.contains_iff.mp left)).2 rfl
  | removeConstraint id live =>
    refine ⟨live, Bool.eq_false_iff.mpr fun left => ?_⟩
    exact (model.constraints.mem_ids_remove.mp (Registry.contains_iff.mp left)).2 rfl
  | updateBounds _ _ _ asked => cases asked

/-- An entity that was removed is gone. -/
theorem gone_of_remove (wellFormed : model.WellFormed)
    (removed : model.apply (.remove entity) = .ok outcome) : Gone entity outcome.model := by
  obtain ⟨live, dead⟩ := contains_of_remove removed
  rcases (change_of_apply removed).numbers entity.kind with ⟨adds, _⟩ | ⟨_, retains⟩
  · cases adds
  · have listed := contains_iff_mem.mp live
    rw [entities_eq_filter wellFormed] at listed
    exact ⟨retains.added ▸ List.mem_of_mem_filter listed,
      fun left => Bool.eq_false_iff.mp dead (contains_iff_mem.mpr left)⟩

end Gone

/-! ## Runs -/

inductive Initial : Model Float → Prop where
  | empty : Initial .empty
  | read {text : String} {model : Model Float} (accepted : ofText text = .ok model) :
      Initial model

theorem Initial.reachable {model : Model Float} (initial : model.Initial) : model.Reachable := by
  cases initial with
  | empty => exact .empty
  | read accepted => exact .read accepted

/-- Nothing that was added to an initial model is missing, since reading removes nothing. -/
theorem Initial.entities_eq {model : Model Float} (initial : model.Initial) (kind : EntityKind) :
    model.entities kind = (List.range (model.added kind)).map kind.ref := by
  cases initial with
  | empty => cases kind <;> rfl
  | read accepted =>
    have grows : Reader.Lasting fun model : Model Float =>
        model.entities kind = (List.range (model.added kind)).map kind.ref := by
      intro model edit outcome grows applied whole
      rcases (change_of_apply applied).numbers kind with ⟨_, appends⟩ | ⟨_, retains⟩
      · rw [appends.entities, appends.added, whole, List.range_succ, List.map_append]
        rfl
      · rw [retains.same grows, retains.added, whole]
    exact Reader.of_ofText grows (by cases kind <;> rfl) accepted

def additions {Cause Reply : Type} (kind : EntityKind)
    (results : List (Edit K × Except Cause Reply)) : List Reply :=
  results.filterMap fun result =>
    if result.1.adds = some kind then result.2.toOption else none

theorem additions_cons {Cause Reply : Type} (kind : EntityKind)
    (result : Edit K × Except Cause Reply) (results : List (Edit K × Except Cause Reply)) :
    additions kind (result :: results) =
      (if result.1.adds = some kind then result.2.toOption else none).toList ++
        additions kind results := by
  unfold additions
  rw [List.filterMap_cons]
  split <;> simp_all

/-- Run lemma: the additions of a kind count on from what was added before. -/
theorem additions_trail [ExtendedNumber K] [Zero K] [BEq K] [Add K] (kind : EntityKind) :
    ∀ (edits : List (Edit K)) (start : Model K), ∃ count,
      additions kind (start.trail edits) =
          (List.range' (start.added kind) count).map (some ∘ kind.ref) ∧
        (edits.foldl attempt start).added kind = start.added kind + count
  | [], _ => ⟨0, rfl, rfl⟩
  | edit :: edits, start => by
    obtain ⟨count, later, total⟩ := additions_trail kind edits (start.attempt edit)
    rw [trail, additions_cons, List.foldl_cons, later, total]
    cases applied : start.apply edit with
    | error cause =>
      refine ⟨count, ?_, ?_⟩
      · rw [attempt_of_error applied]
        show (if edit.adds = some kind then none else none).toList ++ _ = _
        rw [ite_self]
        rfl
      · rw [attempt_of_error applied]
    | ok outcome =>
      rw [attempt_of_ok applied]
      rcases (change_of_apply applied).numbers kind with ⟨adds, appends⟩ | ⟨adds, retains⟩
      · refine ⟨count + 1, ?_, ?_⟩
        · rw [if_pos adds, appends.added, List.range'_succ, List.map_cons]
          show (some outcome.created).toList ++ _ = _
          rw [appends.created]
          rfl
        · rw [appends.added]
          omega
      · refine ⟨count, ?_, ?_⟩
        · rw [if_neg adds, retains.added]
          rfl
        · rw [retains.added]

/-- Everything of a kind that was added up to the end of a run, in the order in which it was
added. -/
theorem issued_eq {start : Model Float} (initial : start.Initial) (edits : List (Edit Float))
    (kind : EntityKind) :
    (start.entities kind).map some ++ additions kind (start.trail edits) =
      (List.range ((edits.foldl attempt start).added kind)).map (some ∘ kind.ref) := by
  obtain ⟨count, later, total⟩ := additions_trail kind edits start
  rw [later, total, initial.entities_eq, List.map_map, List.range_eq_range', List.range_eq_range',
    ← List.range'_append_1, List.map_append, Nat.zero_add]

/-- The entities of a kind that were handed out are numbered in the order in which they
were, none was handed out twice, and the model lists those among them that are live in the
same order. -/
structure Numbered {Reply : Type} (reply : EntityRef → Reply) (kind : EntityKind)
    (issued : List Reply) (model : Model Float) : Prop where
  inOrder : ∀ index answer, issued[index]? = some answer → answer = reply (kind.ref index)
  once : issued.Nodup
  listed : model.entities kind =
    ((List.range issued.length).map kind.ref).filter model.contains

theorem numbered_of_issued {Reply : Type} {reply : EntityRef → Reply}
    (faithful : Function.Injective reply) {kind : EntityKind} {issued : List Reply}
    {model : Model Float} (wellFormed : model.WellFormed)
    (counted : issued = (List.range (model.added kind)).map (reply ∘ kind.ref)) :
    Numbered reply kind issued model where
  inOrder := by
    intro index answer present
    rw [counted, List.getElem?_map, Option.map_eq_some_iff] at present
    obtain ⟨number, found, rfl⟩ := present
    obtain ⟨_, rfl⟩ := List.getElem?_eq_some_iff.mp found
    rw [List.getElem_range]
    rfl
  once := by
    rw [counted]
    exact List.nodup_range.map (faithful.comp kind.ref_injective)
  listed := by
    rw [counted, List.length_map, List.length_range]
    exact entities_eq_filter wellFormed kind

theorem numbered_of_run {start : Model Float} (initial : start.Initial)
    (edits : List (Edit Float)) (kind : EntityKind) :
    Numbered some kind ((start.entities kind).map some ++ additions kind (start.trail edits))
      (edits.foldl attempt start) :=
  numbered_of_issued (Option.some_injective _) (initial.reachable.foldl_attempt edits).wellFormed
    (issued_eq initial edits kind)

theorem not_contains_of_run {start : Model Float} (reached : start.Reachable)
    (earlier later : List (Edit Float)) {entity : EntityRef} {outcome : Outcome Float}
    (removed : (earlier.foldl attempt start).apply (.remove entity) = .ok outcome) :
    ((earlier ++ .remove entity :: later).foldl attempt start).contains entity = false := by
  have gone := gone_of_remove (reached.foldl_attempt earlier).wellFormed removed
  rw [List.foldl_append, List.foldl_cons, attempt_of_ok removed]
  exact (gone.foldl_attempt later).not_contains

end Model

end ConicModel
