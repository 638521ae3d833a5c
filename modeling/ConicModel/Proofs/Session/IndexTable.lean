import ConicModel.Proofs.Session.Pairing
import Mathlib.Data.List.AList
import Mathlib.Data.List.Induction

/-!
Contract: an arena of indices and a map of ids answer what a pairing answers.

Owns:
- `IndexTable`, an arena with a slot for each number of an id and a map from indices to ids;
- filling both tables pair by pair;
- the fact that the filled tables give the same look-ups and the same count as the pairing.

Does not own: which look-ups lead back.

Slots of removed ids are holes.  A slot or a key that is written twice keeps what was written last,
which matters for indices only, since no id comes twice.
-/

namespace ConicModel

/-- The indices of one kind by the numbers of their ids, and the ids by their indices. -/
structure IndexTable (kind : EntityKind) where
  arena : List (Option (SolverIndex kind)) := []
  ids : AList fun _ : SolverIndex kind => EntityId kind := ∅

namespace IndexTable

/-! ## Slots -/

section Slots

variable {α : Type}

/-- Writes a value to a slot; the slots up to it that are missing are added as holes. -/
def place (arena : List (Option α)) (slot : Nat) (value : α) : List (Option α) :=
  (arena ++ List.replicate (slot + 1 - arena.length) none).set slot (some value)

theorem join_getElem?_place (arena : List (Option α)) (slot other : Nat) (value : α) :
    (place arena slot value)[other]?.join =
      if other = slot then some value else arena[other]?.join := by
  unfold place
  rw [List.getElem?_set]
  split
  · next same =>
    rw [if_pos (by simp; omega), if_pos same.symm]
    rfl
  · next different =>
    rw [if_neg (Ne.symm different)]
    by_cases inside : other < arena.length
    · rw [List.getElem?_append_left inside]
    · rw [List.getElem?_append_right (by omega), List.getElem?_replicate,
        List.getElem?_eq_none (by omega)]
      split <;> rfl

end Slots

variable {kind : EntityKind}

def index? (table : IndexTable kind) (id : EntityId kind) : Option (SolverIndex kind) :=
  table.arena[id.number]?.join

def id? (table : IndexTable kind) (index : SolverIndex kind) : Option (EntityId kind) :=
  table.ids.lookup index

def size (table : IndexTable kind) : Nat :=
  table.ids.keys.length

def insert (table : IndexTable kind) (pair : EntityId kind × SolverIndex kind) :
    IndexTable kind :=
  ⟨place table.arena pair.1.number pair.2, table.ids.insert pair.2 pair.1⟩

def fill (ids : List (EntityId kind)) (indices : List (SolverIndex kind)) : IndexTable kind :=
  (ids.zip indices).foldl insert {}

structure Mirrors (table : IndexTable kind) (pairing : Pairing kind) : Prop where
  index? : ∀ id, table.index? id = pairing.index? id
  id? : ∀ index, table.id? index = pairing.id? index
  size : table.size = pairing.size

/-! ## One pair -/

section Insert

variable (table : IndexTable kind) (pair : EntityId kind × SolverIndex kind)

theorem index?_insert (id : EntityId kind) :
    (table.insert pair).index? id = if id = pair.1 then some pair.2 else table.index? id := by
  refine (join_getElem?_place table.arena pair.1.number id.number pair.2).trans ?_
  have same : id.number = pair.1.number ↔ id = pair.1 :=
    ⟨fun number => congrArg EntityId.mk number, congrArg EntityId.number⟩
  exact if_congr same rfl rfl

theorem id?_insert (index : SolverIndex kind) :
    (table.insert pair).id? index = if index = pair.2 then some pair.1 else table.id? index := by
  split
  · next same =>
    rw [same]
    exact AList.lookup_insert table.ids
  · next different => exact AList.lookup_insert_ne different

end Insert

/-! ## All pairs -/

section Fill

variable {pairs : List (EntityId kind × SolverIndex kind)}

/-- Of the pairs with one index the last one is found, as in the pairing. -/
theorem id?_foldl (index : SolverIndex kind) :
    (pairs.foldl insert {}).id? index = Pairing.id? ⟨pairs⟩ index := by
  induction pairs using List.reverseRecOn with
  | nil => rfl
  | append_singleton pairs pair inductionHypothesis =>
    rw [List.foldl_append, List.foldl_cons, List.foldl_nil, id?_insert, inductionHypothesis]
    unfold Pairing.id?
    dsimp only
    rw [List.reverse_append, List.reverse_singleton, List.singleton_append, List.find?_cons]
    by_cases same : index = pair.2
    · rw [if_pos same, beq_iff_eq.mpr same.symm]
      rfl
    · rw [if_neg same, beq_eq_false_iff_ne.mpr (Ne.symm same)]

/-- Without an id that comes twice, the index of every pair stays in its slot. -/
theorem index?_foldl (distinct : (pairs.map Prod.fst).Nodup) (id : EntityId kind) :
    (pairs.foldl insert {}).index? id = Pairing.index? ⟨pairs⟩ id := by
  refine Option.ext fun index => ?_
  rw [Pairing.index?_eq_some_iff distinct]
  induction pairs using List.reverseRecOn with
  | nil => exact ⟨nofun, nofun⟩
  | append_singleton pairs pair inductionHypothesis =>
    rw [List.map_append, List.nodup_append] at distinct
    obtain ⟨before, -, apart⟩ := distinct
    rw [List.foldl_append, List.foldl_cons, List.foldl_nil, index?_insert, List.mem_append,
      List.mem_singleton]
    split
    · next same =>
      have earlier : (id, index) ∉ pairs := fun member =>
        apart id (List.mem_map_of_mem member) pair.1 (List.mem_singleton_self _) same
      rw [or_iff_right earlier, Option.some.injEq, Prod.ext_iff]
      exact ⟨fun is => ⟨same, is.symm⟩, fun is => is.2.symm⟩
    · next different =>
      rw [inductionHypothesis before]
      exact (or_iff_left fun is => different (congrArg Prod.fst is)).symm

theorem size_foldl : (pairs.foldl insert {}).size = Pairing.size ⟨pairs⟩ := by
  have same : (pairs.foldl insert {}).ids.keys.Perm (pairs.map Prod.snd).eraseDups := by
    rw [List.perm_ext_iff_of_nodup (AList.keys_nodup _) (nodup_eraseDups _)]
    intro index
    rw [List.mem_eraseDups, ← AList.mem_keys, ← AList.lookup_isSome]
    show ((pairs.foldl insert {}).id? index).isSome = true ↔ _
    rw [id?_foldl]
    unfold Pairing.id?
    simp
  exact same.length_eq

/-- The tables of ids that are all different are as good as their pairing. -/
theorem mirrors_fill {ids : List (EntityId kind)} {indices : List (SolverIndex kind)}
    {pairing : Pairing kind} (distinct : ids.Nodup)
    (paired : IndexMap.pair ids indices = .ok pairing) : (fill ids indices).Mirrors pairing := by
  unfold IndexMap.pair at paired
  split at paired
  · next sameLength =>
    cases paired
    have keys : (ids.zip indices).map Prod.fst = ids :=
      List.map_fst_zip (Nat.le_of_eq sameLength.symm)
    exact ⟨index?_foldl (keys.symm ▸ distinct), id?_foldl, size_foldl⟩
  · cases paired

end Fill

end IndexTable

end ConicModel
