import ConicModel.Proofs.Model.WellFormed
import Mathlib.Data.List.AList

/-!
Contract: names kept in two maps, by id and by name, agree with the names of a registry.

Owns:
- `NameTable`, the two maps, and how a name is put into both and taken out of both;
- `NameTable.Inverse`, which says that the maps are inverse to each other;
- `NameTables`, the tables of both kinds;
- the fact that the table of a registry finds the same entities and counts as many.

Does not own: when a name may be given, or what changes of a model do to its names.

Putting a name in keeps the maps inverse only if nobody holds the name, which is for the caller to
check.
-/

namespace ConicModel

/-- The names of the entities of one kind, by id and by name. -/
structure NameTable (kind : EntityKind) where
  byId : AList fun _ : EntityId kind => String := ∅
  byName : AList fun _ : String => EntityId kind := ∅

namespace NameTable

variable {kind : EntityKind}

def name? (table : NameTable kind) (id : EntityId kind) : Option String :=
  table.byId.lookup id

def holder? (table : NameTable kind) (name : String) : Option (EntityId kind) :=
  table.byName.lookup name

def count (table : NameTable kind) : Nat :=
  table.byId.keys.length

/-- Takes the name of an id out of both maps. -/
def remove (table : NameTable kind) (id : EntityId kind) : NameTable kind :=
  match table.name? id with
  | some old => ⟨table.byId.erase id, table.byName.erase old⟩
  | none => table

/-- Puts the name of an id into both maps, in place of the one it has. -/
def insert (table : NameTable kind) (id : EntityId kind) (name : String) : NameTable kind :=
  ⟨(table.remove id).byId.insert id name, (table.remove id).byName.insert name id⟩

def Inverse (table : NameTable kind) : Prop :=
  ∀ id name, table.name? id = some name ↔ table.holder? name = some id

variable {table : NameTable kind}

theorem inverse_empty : ({} : NameTable kind).Inverse :=
  fun _ _ => ⟨nofun, nofun⟩

theorem name?_remove (id other : EntityId kind) :
    (table.remove id).name? other = if other = id then none else table.name? other := by
  unfold remove
  split
  · split
    · rename_i same
      rw [same]
      exact AList.lookup_erase id table.byId
    · rename_i different
      exact AList.lookup_erase_ne different
  · rename_i unnamed
    split
    · rename_i same
      rw [same, unnamed]
    · rfl

theorem name?_insert (id other : EntityId kind) (name : String) :
    (table.insert id name).name? other = if other = id then some name else table.name? other := by
  split
  · rename_i same
    rw [same]
    exact AList.lookup_insert _
  · rename_i different
    refine (AList.lookup_insert_ne different).trans ?_
    exact (name?_remove id other).trans (if_neg different)

/-- Taking a name out of the maps keeps them inverse. -/
theorem Inverse.remove (inverse : table.Inverse) (id : EntityId kind) :
    (table.remove id).Inverse := by
  intro other name
  rw [name?_remove]
  unfold NameTable.remove
  cases named : table.name? id with
  | some old =>
    dsimp only
    have held : table.holder? old = some id := (inverse id old).mp named
    by_cases freed : name = old
    · subst freed
      have gone : (table.byName.erase name).lookup name = none := AList.lookup_erase _ _
      show _ ↔ (table.byName.erase name).lookup name = some other
      rw [gone]
      refine ⟨fun taken => ?_, nofun⟩
      split at taken
      · cases taken
      · rename_i different
        rw [inverse, held, Option.some.injEq] at taken
        exact absurd taken.symm different
    · have kept : (table.byName.erase old).lookup name = table.holder? name :=
        AList.lookup_erase_ne freed
      show _ ↔ (table.byName.erase old).lookup name = some other
      rw [kept, ← inverse]
      split
      · rename_i same
        rw [same, named, Option.some.injEq]
        exact ⟨nofun, fun same => absurd same.symm freed⟩
      · exact Iff.rfl
  | none =>
    split
    · rename_i same
      rw [same, ← inverse, named]
    · exact inverse other name

/-- Putting in a name that nobody holds keeps the maps inverse. -/
theorem Inverse.insert (inverse : table.Inverse) (id : EntityId kind) {name : String}
    (unheld : table.holder? name = none) : (table.insert id name).Inverse := by
  have rest := inverse.remove id
  have unnamed : ∀ other, table.name? other ≠ some name := by
    intro other named
    rw [inverse, unheld] at named
    cases named
  intro other given
  rw [name?_insert]
  by_cases same : given = name
  · subst same
    have held : (table.insert id given).holder? given = some id := AList.lookup_insert _
    rw [held, Option.some.injEq]
    split
    · rename_i is
      exact ⟨fun _ => is.symm, fun _ => rfl⟩
    · rename_i different
      exact ⟨fun named => absurd named (unnamed other), fun is => absurd is.symm different⟩
  · have kept : (table.insert id name).holder? given = (table.remove id).holder? given :=
      AList.lookup_insert_ne same
    rw [kept, ← rest, name?_remove]
    split
    · simpa using Ne.symm same
    · exact Iff.rfl

end NameTable

/-! ## Agreement with a registry -/

structure NameTable.Mirrors {kind : EntityKind} {Content : Type} (table : NameTable kind)
    (registry : Registry kind Content) : Prop where
  inverse : table.Inverse
  names : ∀ id, table.name? id = registry.name? id

namespace NameTable.Mirrors

variable {kind : EntityKind} {Content : Type} {table : NameTable kind}
  {registry : Registry kind Content}

theorem holder?_eq (mirrors : table.Mirrors registry) (wellFormed : registry.WellFormed)
    (name : String) : table.holder? name = registry.holder? name := by
  refine Option.ext fun id => ?_
  rw [← mirrors.inverse, wellFormed.holder?_eq_some, mirrors.names]

/-- The table has as many ids as the registry has named entities. -/
theorem count_eq (mirrors : table.Mirrors registry) (wellFormed : registry.WellFormed) :
    table.count = registry.namedCount := by
  have distinct : ((registry.entries.filter fun entry => entry.name.isSome).map
      Entry.id).Nodup :=
    wellFormed.ids_nodup.sublist (List.filter_sublist.map Entry.id)
  have same : table.byId.keys.Perm
      ((registry.entries.filter fun entry => entry.name.isSome).map Entry.id) := by
    rw [List.perm_ext_iff_of_nodup table.byId.keys_nodup distinct]
    intro id
    rw [← AList.mem_keys, ← AList.lookup_isSome]
    show (table.name? id).isSome = true ↔ _
    rw [mirrors.names, List.mem_map]
    constructor
    · intro named
      obtain ⟨name, named⟩ := Option.isSome_iff_exists.mp named
      obtain ⟨entry, present, has⟩ := Option.bind_eq_some_iff.mp named
      obtain ⟨member, is⟩ := Registry.mem_of_entry?_eq present
      exact ⟨entry, List.mem_filter.mpr ⟨member, by rw [has]; rfl⟩, is⟩
    · rintro ⟨entry, member, rfl⟩
      obtain ⟨member, named⟩ := List.mem_filter.mp member
      rw [wellFormed.name?_eq member]
      exact named
  exact same.length_eq.trans (List.length_map _)

end NameTable.Mirrors

/-! ## The tables of a model -/

structure NameTables where
  vars : NameTable .var := {}
  constraints : NameTable .con := {}

namespace NameTables

def name? (tables : NameTables) : EntityRef → Option String
  | .var id => tables.vars.name? id
  | .con id => tables.constraints.name? id

def holder? (tables : NameTables) (kind : EntityKind) (name : String) : Option EntityRef :=
  match kind with
  | .var => (tables.vars.holder? name).map .var
  | .con => (tables.constraints.holder? name).map .con

def count (tables : NameTables) : EntityKind → Nat
  | .var => tables.vars.count
  | .con => tables.constraints.count

def remove (tables : NameTables) : EntityRef → NameTables
  | .var id => { tables with vars := tables.vars.remove id }
  | .con id => { tables with constraints := tables.constraints.remove id }

def insert (tables : NameTables) (entity : EntityRef) (name : String) : NameTables :=
  match entity with
  | .var id => { tables with vars := tables.vars.insert id name }
  | .con id => { tables with constraints := tables.constraints.insert id name }

def Inverse (tables : NameTables) : Prop :=
  tables.vars.Inverse ∧ tables.constraints.Inverse

variable {tables : NameTables}

theorem Inverse.remove (inverse : tables.Inverse) (entity : EntityRef) :
    (tables.remove entity).Inverse := by
  cases entity with
  | var id => exact ⟨inverse.1.remove id, inverse.2⟩
  | con id => exact ⟨inverse.1, inverse.2.remove id⟩

theorem Inverse.insert (inverse : tables.Inverse) {entity : EntityRef} {name : String}
    (unheld : tables.holder? entity.kind name = none) : (tables.insert entity name).Inverse := by
  cases entity with
  | var id => exact ⟨inverse.1.insert id (Option.map_eq_none_iff.mp unheld), inverse.2⟩
  | con id => exact ⟨inverse.1, inverse.2.insert id (Option.map_eq_none_iff.mp unheld)⟩

theorem name?_remove (entity other : EntityRef) :
    (tables.remove entity).name? other = if other = entity then none else tables.name? other := by
  cases entity with
  | var id =>
    cases other with
    | var otherId =>
      simp only [EntityRef.var.injEq]
      exact NameTable.name?_remove id otherId
    | con otherId => rfl
  | con id =>
    cases other with
    | var otherId => rfl
    | con otherId =>
      simp only [EntityRef.con.injEq]
      exact NameTable.name?_remove id otherId

theorem name?_insert (entity other : EntityRef) (name : String) :
    (tables.insert entity name).name? other =
      if other = entity then some name else tables.name? other := by
  cases entity with
  | var id =>
    cases other with
    | var otherId =>
      simp only [EntityRef.var.injEq]
      exact NameTable.name?_insert id otherId name
    | con otherId => rfl
  | con id =>
    cases other with
    | var otherId => rfl
    | con otherId =>
      simp only [EntityRef.con.injEq]
      exact NameTable.name?_insert id otherId name

structure Mirrors {K : Type} (tables : NameTables) (model : Model K) : Prop where
  inverse : tables.Inverse
  names : ∀ entity, tables.name? entity = model.name? entity

/-- Tables and model give the same answers to every question about names. -/
structure Agrees {K : Type} (tables : NameTables) (model : Model K) : Prop where
  names : ∀ entity, tables.name? entity = model.name? entity
  holders : ∀ kind name, tables.holder? kind name = model.holder? kind name
  counts : ∀ kind, tables.count kind = model.namedCount kind

theorem mirrors_empty {K : Type} : ({} : NameTables).Mirrors (Model.empty : Model K) where
  inverse := ⟨NameTable.inverse_empty, NameTable.inverse_empty⟩
  names entity := by cases entity <;> rfl

variable {K : Type} [ExtendedNumber K] [Zero K] [BEq K] {model : Model K}

theorem Mirrors.agrees (mirrors : tables.Mirrors model) (wellFormed : model.WellFormed) :
    tables.Agrees model := by
  have vars : tables.vars.Mirrors model.vars :=
    ⟨mirrors.inverse.1, fun id => mirrors.names (.var id)⟩
  have constraints : tables.constraints.Mirrors model.constraints :=
    ⟨mirrors.inverse.2, fun id => mirrors.names (.con id)⟩
  refine ⟨mirrors.names, fun kind name => ?_, fun kind => ?_⟩
  · cases kind with
    | var => exact congrArg (Option.map _) (vars.holder?_eq wellFormed.vars name)
    | con => exact congrArg (Option.map _) (constraints.holder?_eq wellFormed.constraints name)
  · cases kind with
    | var => exact vars.count_eq wellFormed.vars
    | con => exact constraints.count_eq wellFormed.constraints

end NameTables

end ConicModel
