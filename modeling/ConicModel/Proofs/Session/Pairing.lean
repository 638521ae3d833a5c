import ConicModel.Proofs.Model.Reachable
import ConicModel.Session.IndexMap
import Mathlib.Data.List.Dedup

/-!
Contract: when the correspondence of entities and indices leads back and forth.

Owns:
- pairings that are inverse look-ups, from every entity to an index and back;
- what every accepted receipt gives, and what it gives only if it assigns no index twice.

Does not own: who makes receipts.

A receipt is accepted for its lengths alone.  So whether the look-ups are inverse is up to the
solver, and the count of indices tells.
-/

namespace ConicModel

/-! ## Lists without duplicates -/

theorem nodup_eraseDups {α : Type} [DecidableEq α] : ∀ list : List α, list.eraseDups.Nodup
  | [] => by simp
  | first :: others => by
    rw [List.eraseDups_cons, List.nodup_cons]
    exact ⟨by simp, nodup_eraseDups (others.filter fun other => !other == first)⟩
termination_by list => list.length
decreasing_by
  have shorter := List.length_filter_le (fun other => !other == first) others
  simp only [List.length_cons]
  omega

/-- Only a list without duplicates keeps its length when duplicates are erased. -/
theorem length_eraseDups_eq_iff {α : Type} [DecidableEq α] {list : List α} :
    list.eraseDups.length = list.length ↔ list.Nodup := by
  have same : list.eraseDups.Perm list.dedup := by
    rw [List.perm_ext_iff_of_nodup (nodup_eraseDups list) (List.nodup_dedup list)]
    simp
  rw [same.length_eq, ← List.dedup_eq_self]
  exact ⟨(List.dedup_sublist list).eq_of_length, congrArg List.length⟩

/-! ## One kind -/

namespace Pairing

variable {kind : EntityKind} {pairing : Pairing kind} {ids : List (EntityId kind)}
  {indices : List (SolverIndex kind)} {id : EntityId kind} {index : SolverIndex kind}

/-- Every entity leads to an index and from there back, every index leads to an entity that
leads back, and there are as many indices as entities. -/
structure Inverse (pairing : Pairing kind) (ids : List (EntityId kind)) : Prop where
  forth : ∀ id ∈ ids, ∃ index, pairing.index? id = some index ∧ pairing.id? index = some id
  back : ∀ id index, pairing.id? index = some id → pairing.index? id = some index
  size : pairing.size = ids.length

/-- What accepted indices give: an index for every entity, the way back from an entity that an
index leads to, and inverse look-ups exactly if no index is assigned twice. -/
structure Accepted (pairing : Pairing kind) (ids : List (EntityId kind))
    (indices : List (SolverIndex kind)) : Prop where
  assigned : ∀ id ∈ ids, ∃ index, pairing.index? id = some index
  back : ∀ id index, pairing.id? index = some id → pairing.index? id = some index
  inverse_iff : pairing.Inverse ids ↔ indices.Nodup

theorem index?_eq_some_iff (distinct : (pairing.pairs.map Prod.fst).Nodup) :
    pairing.index? id = some index ↔ (id, index) ∈ pairing.pairs := by
  unfold index?
  rw [Option.map_eq_some_iff]
  constructor
  · rintro ⟨pair, found, rfl⟩
    obtain ⟨member, rfl⟩ := (find?_key_eq_some distinct).mp found
    exact member
  · intro member
    exact ⟨(id, index), (find?_key_eq_some distinct).mpr ⟨member, rfl⟩, rfl⟩

theorem mem_of_id?_eq_some (found : pairing.id? index = some id) : (id, index) ∈ pairing.pairs := by
  obtain ⟨pair, last, rfl⟩ := Option.map_eq_some_iff.mp found
  have same : pair.2 = index := by simpa using List.find?_some last
  rw [← same]
  exact List.mem_reverse.mp (List.mem_of_find?_eq_some last)

theorem id?_eq_some_iff (distinct : (pairing.pairs.map Prod.snd).Nodup) :
    pairing.id? index = some id ↔ (id, index) ∈ pairing.pairs := by
  refine ⟨mem_of_id?_eq_some, ?_⟩
  intro member
  have reversed : (pairing.pairs.reverse.map Prod.snd).Nodup := by
    rw [List.map_reverse]
    exact List.nodup_reverse.mpr distinct
  refine Option.map_eq_some_iff.mpr ⟨(id, index), ?_, rfl⟩
  exact (find?_key_eq_some reversed).mpr ⟨List.mem_reverse.mpr member, rfl⟩

/-! ## An accepted receipt -/

theorem pairs_of_pair (paired : IndexMap.pair ids indices = .ok pairing) :
    pairing.pairs.map Prod.fst = ids ∧ pairing.pairs.map Prod.snd = indices := by
  unfold IndexMap.pair at paired
  split at paired
  · rename_i sameLength
    cases paired
    exact ⟨List.map_fst_zip (Nat.le_of_eq sameLength.symm), List.map_snd_zip (Nat.le_of_eq sameLength)⟩
  · cases paired

section Paired

variable (distinct : ids.Nodup) (paired : IndexMap.pair ids indices = .ok pairing)
include distinct paired

theorem exists_index? (member : id ∈ ids) : ∃ index, pairing.index? id = some index := by
  obtain ⟨rfl, _⟩ := pairs_of_pair paired
  obtain ⟨⟨_, index⟩, present, rfl⟩ := List.mem_map.mp member
  exact ⟨index, (index?_eq_some_iff distinct).mpr present⟩

/-- No other entity has one. -/
theorem exists_index?_iff : (∃ index, pairing.index? id = some index) ↔ id ∈ ids := by
  refine ⟨?_, exists_index? distinct paired⟩
  rintro ⟨index, found⟩
  obtain ⟨rfl, _⟩ := pairs_of_pair paired
  exact List.mem_map_of_mem ((index?_eq_some_iff distinct).mp found)

theorem index?_at {place : Nat} (here : ids[place]? = some id) :
    pairing.index? id = indices[place]? := by
  obtain ⟨rfl, rfl⟩ := pairs_of_pair paired
  rw [List.getElem?_map, Option.map_eq_some_iff] at here
  obtain ⟨⟨_, index⟩, there, rfl⟩ := here
  rw [List.getElem?_map, there]
  exact (index?_eq_some_iff distinct).mpr (List.mem_of_getElem? there)

theorem index?_of_id? (found : pairing.id? index = some id) : pairing.index? id = some index := by
  obtain ⟨rfl, _⟩ := pairs_of_pair paired
  exact (index?_eq_some_iff distinct).mpr (mem_of_id?_eq_some found)

/-- All entities are led back to exactly if no index is assigned twice. -/
theorem forth_iff :
    (∀ id ∈ ids, ∃ index, pairing.index? id = some index ∧ pairing.id? index = some id) ↔
      indices.Nodup := by
  obtain ⟨rfl, rfl⟩ := pairs_of_pair paired
  constructor
  · intro forth
    refine (List.nodup_map_iff_inj_on distinct.of_map).mpr ?_
    rintro ⟨left, index⟩ leftMember ⟨right, _⟩ rightMember rfl
    have back : ∀ id, (id, index) ∈ pairing.pairs → pairing.id? index = some id := by
      intro id member
      obtain ⟨other, is, returns⟩ := forth id (List.mem_map_of_mem member)
      rw [(index?_eq_some_iff distinct).mpr member] at is
      cases is
      exact returns
    have same := (back left leftMember).symm.trans (back right rightMember)
    cases same
    rfl
  · intro single id member
    obtain ⟨⟨_, index⟩, present, rfl⟩ := List.mem_map.mp member
    exact ⟨index, (index?_eq_some_iff distinct).mpr present, (id?_eq_some_iff single).mpr present⟩

omit distinct in
/-- There are as many indices as entities exactly if no index is assigned twice. -/
theorem size_iff : pairing.size = ids.length ↔ indices.Nodup := by
  obtain ⟨rfl, rfl⟩ := pairs_of_pair paired
  rw [← length_eraseDups_eq_iff, List.length_map, List.length_map]
  rfl

theorem inverse_iff : pairing.Inverse ids ↔ indices.Nodup := by
  constructor
  · intro inverse
    exact (size_iff paired).mp inverse.size
  · intro single
    exact ⟨(forth_iff distinct paired).mpr single, fun _ _ => index?_of_id? distinct paired,
      (size_iff paired).mpr single⟩

theorem accepted : pairing.Accepted ids indices :=
  ⟨fun _ => exists_index? distinct paired, fun _ _ => index?_of_id? distinct paired,
    inverse_iff distinct paired⟩

end Paired

end Pairing

/-! ## References -/

def EntityId.ref : {kind : EntityKind} → EntityId kind → EntityRef
  | .var, id => .var id
  | .con, id => .con id

def SolverIndex.ref : {kind : EntityKind} → SolverIndex kind → IndexRef
  | .var, index => .var index
  | .con, index => .con index

theorem EntityId.ref_injective {kind : EntityKind} {left right : EntityId kind}
    (same : left.ref = right.ref) : left = right := by
  cases kind <;> cases same <;> rfl

/-! ## Whole models -/

namespace IndexMap

variable {model : Model Float} {receipt : CopyReceipt} {map : IndexMap}

theorem pairs_of_build (built : build model receipt = .ok map) :
    pair model.vars.ids receipt.vars = .ok map.vars ∧
      pair model.constraints.ids receipt.constraints = .ok map.constraints := by
  unfold build at built
  obtain ⟨vars, pairedVars, built⟩ := Model.bind_eq_ok.mp built
  obtain ⟨constraints, pairedConstraints, built⟩ := Model.bind_eq_ok.mp built
  cases built
  exact ⟨pairedVars, pairedConstraints⟩

/-- The index of the entity leads back to it. -/
def Returns (map : IndexMap) (entity : EntityRef) : Prop :=
  ∃ index, map.index? entity = some index ∧ map.entity? index = some entity

def pairing (map : IndexMap) : (kind : EntityKind) → Pairing kind
  | .var => map.vars
  | .con => map.constraints

theorem returns_ref {kind : EntityKind} {id : EntityId kind} :
    map.Returns id.ref ↔
      ∃ index, (map.pairing kind).index? id = some index ∧
        (map.pairing kind).id? index = some id := by
  have forth : map.index? id.ref = ((map.pairing kind).index? id).map SolverIndex.ref := by
    cases kind <;> rfl
  have back (index : SolverIndex kind) :
      map.entity? index.ref = ((map.pairing kind).id? index).map EntityId.ref := by
    cases kind <;> rfl
  unfold Returns
  rw [forth]
  constructor
  · rintro ⟨index, found, returned⟩
    obtain ⟨index, given, rfl⟩ := Option.map_eq_some_iff.mp found
    rw [back] at returned
    obtain ⟨other, leads, same⟩ := Option.map_eq_some_iff.mp returned
    cases EntityId.ref_injective same
    exact ⟨index, given, leads⟩
  · rintro ⟨index, given, leads⟩
    exact ⟨index.ref, by rw [given, Option.map_some], by rw [back, leads, Option.map_some]⟩

/-- All live entities are led back to exactly if the receipt assigns no index twice within a
kind. -/
theorem returns_iff (wellFormed : model.WellFormed) (built : build model receipt = .ok map) :
    (∀ entity, model.contains entity = true → map.Returns entity) ↔
      receipt.vars.Nodup ∧ receipt.constraints.Nodup := by
  obtain ⟨vars, constraints⟩ := pairs_of_build built
  rw [← Pairing.forth_iff wellFormed.vars.ids_nodup vars,
    ← Pairing.forth_iff wellFormed.constraints.ids_nodup constraints]
  constructor
  · intro returns
    constructor
    · intro id live
      exact returns_ref.mp (returns (.var id) (Registry.contains_iff.mpr live))
    · intro id live
      exact returns_ref.mp (returns (.con id) (Registry.contains_iff.mpr live))
  · rintro ⟨vars, constraints⟩ entity live
    cases entity with
    | var id => exact returns_ref.mpr (vars id (Registry.contains_iff.mp live))
    | con id => exact returns_ref.mpr (constraints id (Registry.contains_iff.mp live))

/-- In a model that can come about the ids differ, so that every receipt is accepted with which
the model can be paired. -/
theorem accepted_of_build (reached : model.Reachable) (built : build model receipt = .ok map) :
    map.vars.Accepted model.vars.ids receipt.vars ∧
      map.constraints.Accepted model.constraints.ids receipt.constraints := by
  have wellFormed := reached.wellFormed
  obtain ⟨vars, constraints⟩ := pairs_of_build built
  exact ⟨Pairing.accepted wellFormed.vars.ids_nodup vars,
    Pairing.accepted wellFormed.constraints.ids_nodup constraints⟩

end IndexMap

end ConicModel
