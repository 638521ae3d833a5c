import ConicModel.Model.Edit
import Mathlib.Data.List.Basic
import Mathlib.Data.List.Nodup
import Mathlib.Data.List.Pairwise

/-!
Contract: the invariant of a registry.

Owns:
- look-ups by a key that no two elements share;
- ids that increase and stay below the next one, and names that are allowed and
  differ;
- what keeps the invariant, for every operation on registries;
- predicates on the contents of a registry.

Does not own: invariants that relate two registries.
-/

namespace ConicModel

/-- Where keys differ, what is found under a key is the one element that has it. -/
theorem find?_key_eq_some {α β : Type} [DecidableEq β] {key : α → β} {list : List α}
    (distinct : (list.map key).Nodup) {wanted : β} {found : α} :
    list.find? (fun element => key element == wanted) = some found ↔
      found ∈ list ∧ key found = wanted := by
  constructor
  · intro result
    exact ⟨List.mem_of_find?_eq_some result, by simpa using List.find?_some result⟩
  · rintro ⟨member, rfl⟩
    cases result : list.find? fun element => key element == key found with
    | none => simpa using List.find?_eq_none.mp result found member
    | some other =>
      have same : key other = key found := by simpa using List.find?_some result
      rw [List.inj_on_of_nodup_map distinct (List.mem_of_find?_eq_some result) member same]

namespace Registry

variable {kind : EntityKind} {Content : Type}

structure WellFormed (registry : Registry kind Content) : Prop where
  increasing : registry.entries.Pairwise fun left right => left.id.number < right.id.number
  below : ∀ entry ∈ registry.entries, entry.id.number < registry.next
  validNames : ∀ entry ∈ registry.entries, ∀ name, entry.name = some name →
    Model.isValidName name = true
  distinctNames : registry.entries.Pairwise fun left right =>
    ∀ name, left.name = some name → right.name ≠ some name

def All (holds : Content → Prop) (registry : Registry kind Content) : Prop :=
  ∀ entry ∈ registry.entries, holds entry.content

/-! ## Look-ups -/

theorem contains_iff {registry : Registry kind Content} {id : EntityId kind} :
    registry.contains id = true ↔ id ∈ registry.ids := by
  unfold contains ids
  rw [List.any_eq_true, List.mem_map]
  simp only [beq_iff_eq]

theorem mem_ids {registry : Registry kind Content} {entry : Entry kind Content}
    (member : entry ∈ registry.entries) : entry.id ∈ registry.ids :=
  List.mem_map_of_mem member

theorem mem_of_entry?_eq {registry : Registry kind Content} {id : EntityId kind}
    {entry : Entry kind Content} (found : registry.entry? id = some entry) :
    entry ∈ registry.entries ∧ entry.id = id := by
  have matching := List.find?_some found
  exact ⟨List.mem_of_find?_eq_some found, beq_iff_eq.mp matching⟩

theorem All.of_content? {holds : Content → Prop} {registry : Registry kind Content}
    (all : registry.All holds) {id : EntityId kind} {content : Content}
    (present : registry.content? id = some content) : holds content := by
  obtain ⟨entry, found, rfl⟩ := Option.map_eq_some_iff.mp present
  exact all entry (mem_of_entry?_eq found).1

/-- What the entry of an id says about it is said about a live id only. -/
theorem mem_ids_of_bind {registry : Registry kind Content} {id : EntityId kind} {Mark : Type}
    {mark? : Entry kind Content → Option Mark} {mark : Mark}
    (found : (registry.entry? id).bind mark? = some mark) : id ∈ registry.ids := by
  obtain ⟨entry, present, _⟩ := Option.bind_eq_some_iff.mp found
  obtain ⟨member, rfl⟩ := mem_of_entry?_eq present
  exact mem_ids member

theorem name_ne_of_unheld {registry : Registry kind Content} {name : String}
    (unheld : registry.holder? name = none) {entry : Entry kind Content}
    (member : entry ∈ registry.entries) : entry.name ≠ some name := by
  unfold holder? at unheld
  rw [Option.map_eq_none_iff, List.find?_eq_none] at unheld
  intro same
  exact unheld entry member (beq_iff_eq.mpr same)

theorem content?_mapContent (registry : Registry kind Content) (change : Content → Content)
    (id : EntityId kind) :
    (registry.mapContent change).content? id = (registry.content? id).map change := by
  unfold content? entry? mapContent
  rw [List.find?_map, Option.map_map, Option.map_map]
  rfl

section WellFormed

variable {registry : Registry kind Content}

theorem WellFormed.ids_increasing (wellFormed : registry.WellFormed) :
    registry.ids.Pairwise fun left right => left.number < right.number :=
  List.pairwise_map.mpr wellFormed.increasing

theorem WellFormed.ids_nodup (wellFormed : registry.WellFormed) : registry.ids.Nodup :=
  wellFormed.ids_increasing.imp fun {left right} below same => by
    rw [same] at below
    exact absurd below (Nat.lt_irrefl _)

/-- Only one entry has a given id. -/
theorem WellFormed.entry?_eq (wellFormed : registry.WellFormed) {entry : Entry kind Content}
    (member : entry ∈ registry.entries) : registry.entry? entry.id = some entry :=
  (find?_key_eq_some wellFormed.ids_nodup).mpr ⟨member, rfl⟩

/-- A name that an id has is the name of its entry. -/
theorem WellFormed.name?_eq (wellFormed : registry.WellFormed) {entry : Entry kind Content}
    (member : entry ∈ registry.entries) : registry.name? entry.id = entry.name := by
  unfold name?
  rw [wellFormed.entry?_eq member]
  rfl

theorem WellFormed.isValidName_of_name? (wellFormed : registry.WellFormed) {id : EntityId kind}
    {name : String} (named : registry.name? id = some name) : Model.isValidName name = true := by
  obtain ⟨entry, found, has⟩ := Option.bind_eq_some_iff.mp named
  exact wellFormed.validNames entry (mem_of_entry?_eq found).1 name has

/-- Only one entry has a given name. -/
theorem WellFormed.id_of_name (wellFormed : registry.WellFormed) {left right : Entry kind Content}
    (leftMember : left ∈ registry.entries) (rightMember : right ∈ registry.entries) {name : String}
    (leftNamed : left.name = some name) (rightNamed : right.name = some name) :
    left.id = right.id := by
  have ahead : registry.entries.Pairwise fun left right =>
      left.name = some name → right.name = some name → left.id = right.id :=
    wellFormed.distinctNames.imp fun distinct leftNamed rightNamed =>
      absurd rightNamed (distinct name leftNamed)
  have behind : registry.entries.Pairwise fun left right =>
      right.name = some name → left.name = some name → right.id = left.id :=
    wellFormed.distinctNames.imp fun distinct rightNamed leftNamed =>
      absurd rightNamed (distinct name leftNamed)
  exact ahead.forall_of_forall_of_flip (fun _ _ _ _ => rfl) behind leftMember rightMember
    leftNamed rightNamed

/-- The holder of a name is the entity that has it. -/
theorem WellFormed.holder?_eq_some (wellFormed : registry.WellFormed) {id : EntityId kind}
    {name : String} : registry.holder? name = some id ↔ registry.name? id = some name := by
  constructor
  · intro held
    obtain ⟨entry, found, rfl⟩ := Option.map_eq_some_iff.mp held
    rw [wellFormed.name?_eq (List.mem_of_find?_eq_some found)]
    simpa using List.find?_some found
  · intro named
    obtain ⟨entry, present, has⟩ := Option.bind_eq_some_iff.mp named
    obtain ⟨member, rfl⟩ := mem_of_entry?_eq present
    cases held : registry.holder? name with
    | none => exact absurd has (name_ne_of_unheld held member)
    | some other =>
      obtain ⟨holder, found, rfl⟩ := Option.map_eq_some_iff.mp held
      have holds : holder.name = some name := by simpa using List.find?_some found
      rw [wellFormed.id_of_name (List.mem_of_find?_eq_some found) member holds has]

/-! ## Operations that keep the invariant -/

theorem wellFormed_empty : ({} : Registry kind Content).WellFormed where
  increasing := .nil
  below _ member := absurd member List.not_mem_nil
  validNames _ member := absurd member List.not_mem_nil
  distinctNames := .nil

theorem WellFormed.add (wellFormed : registry.WellFormed) (content : Content) :
    (registry.add content).WellFormed where
  increasing := by
    refine List.pairwise_append.mpr ⟨wellFormed.increasing, List.pairwise_singleton _ _, ?_⟩
    intro entry member last lastMember
    rw [List.mem_singleton] at lastMember
    rw [lastMember]
    exact wellFormed.below entry member
  below := by
    intro entry member
    show entry.id.number < registry.next + 1
    rcases List.mem_append.mp member with old | new
    · have := wellFormed.below entry old
      omega
    · rw [List.mem_singleton] at new
      rw [new]
      exact Nat.lt_succ_self _
  validNames := by
    intro entry member name named
    rcases List.mem_append.mp member with old | new
    · exact wellFormed.validNames entry old name named
    · rw [List.mem_singleton.mp new] at named
      cases named
  distinctNames := by
    refine List.pairwise_append.mpr ⟨wellFormed.distinctNames, List.pairwise_singleton _ _, ?_⟩
    intro entry _ last lastMember name _
    rw [List.mem_singleton.mp lastMember]
    exact nofun

theorem WellFormed.remove (wellFormed : registry.WellFormed) (id : EntityId kind) :
    (registry.remove id).WellFormed where
  increasing := wellFormed.increasing.filter _
  below entry member := wellFormed.below entry (List.mem_of_mem_filter member)
  validNames entry member := wellFormed.validNames entry (List.mem_of_mem_filter member)
  distinctNames := wellFormed.distinctNames.filter _

/-- Entries may be replaced by ones with the same id and the same name. -/
theorem WellFormed.map {Other : Type} (wellFormed : registry.WellFormed)
    (change : Entry kind Content → Entry kind Other)
    (sameId : ∀ entry, (change entry).id = entry.id)
    (sameName : ∀ entry, (change entry).name = entry.name) :
    WellFormed ⟨registry.entries.map change, registry.next⟩ where
  increasing := by
    refine List.pairwise_map.mpr (wellFormed.increasing.imp ?_)
    intro left right below
    rw [sameId, sameId]
    exact below
  below := by
    intro entry member
    obtain ⟨old, oldMember, rfl⟩ := List.mem_map.mp member
    rw [sameId]
    exact wellFormed.below old oldMember
  validNames := by
    intro entry member name named
    obtain ⟨old, oldMember, rfl⟩ := List.mem_map.mp member
    rw [sameName] at named
    exact wellFormed.validNames old oldMember name named
  distinctNames := by
    refine List.pairwise_map.mpr (wellFormed.distinctNames.imp ?_)
    intro left right distinct
    rw [sameName, sameName]
    exact distinct

theorem WellFormed.modify (wellFormed : registry.WellFormed) (id : EntityId kind)
    (change : Entry kind Content → Entry kind Content)
    (sameId : ∀ entry, (change entry).id = entry.id)
    (sameName : ∀ entry, (change entry).name = entry.name) :
    (registry.modify id change).WellFormed := by
  refine wellFormed.map _ (fun entry => ?_) fun entry => ?_
  · split
    · exact sameId entry
    · rfl
  · split
    · exact sameName entry
    · rfl

theorem WellFormed.setContent (wellFormed : registry.WellFormed) (id : EntityId kind)
    (content : Content) : (registry.setContent id content).WellFormed :=
  wellFormed.modify id _ (fun _ => rfl) fun _ => rfl

theorem WellFormed.setMetadata (wellFormed : registry.WellFormed) (id : EntityId kind)
    (metadata : Json) : (registry.setMetadata id metadata).WellFormed :=
  wellFormed.modify id _ (fun _ => rfl) fun _ => rfl

theorem WellFormed.mapContent (wellFormed : registry.WellFormed) (change : Content → Content) :
    (registry.mapContent change).WellFormed :=
  wellFormed.map _ (fun _ => rfl) fun _ => rfl

/-- The name of one entity may become none, or an allowed one that no other
entity has. -/
theorem WellFormed.setName (wellFormed : registry.WellFormed) (id : EntityId kind)
    {given : Option String} (valid : ∀ name, given = some name → Model.isValidName name = true)
    (unheld : ∀ name, given = some name → registry.holder? name = none) :
    (registry.setName id given).WellFormed where
  increasing := by
    refine List.pairwise_map.mpr (wellFormed.increasing.imp ?_)
    intro left right below
    split <;> split <;> exact below
  below := by
    intro entry member
    obtain ⟨old, oldMember, rfl⟩ := List.mem_map.mp member
    have := wellFormed.below old oldMember
    split <;> exact this
  validNames := by
    intro entry member name named
    obtain ⟨old, oldMember, rfl⟩ := List.mem_map.mp member
    split at named
    · exact valid name named
    · exact wellFormed.validNames old oldMember name named
  distinctNames := by
    refine List.pairwise_map.mpr (List.Pairwise.imp_of_mem ?_
      (wellFormed.distinctNames.and wellFormed.increasing))
    rintro left right leftMember rightMember ⟨distinct, below⟩ name
    split <;> split
    · rename_i leftIs rightIs
      rw [beq_iff_eq.mp leftIs, beq_iff_eq.mp rightIs] at below
      exact absurd below (Nat.lt_irrefl _)
    · intro named
      exact name_ne_of_unheld (unheld name named) rightMember
    · intro named same
      exact name_ne_of_unheld (unheld name same) leftMember named
    · exact distinct name

end WellFormed

/-! ## Predicates on contents -/

section All

variable {holds : Content → Prop} {registry : Registry kind Content}

theorem All.imp {weaker : Content → Prop} (all : registry.All holds)
    (weaken : ∀ content, holds content → weaker content) : registry.All weaker :=
  fun entry member => weaken entry.content (all entry member)

theorem All.add (all : registry.All holds) {content : Content} (new : holds content) :
    (registry.add content).All holds := by
  intro entry member
  rcases List.mem_append.mp member with old | last
  · exact all entry old
  · rw [List.mem_singleton.mp last]
    exact new

theorem All.remove (all : registry.All holds) (id : EntityId kind) :
    (registry.remove id).All holds :=
  fun entry member => all entry (List.mem_of_mem_filter member)

theorem All.modify (all : registry.All holds) (id : EntityId kind)
    {change : Entry kind Content → Entry kind Content}
    (kept : ∀ entry, holds entry.content → holds (change entry).content) :
    (registry.modify id change).All holds := by
  intro entry member
  obtain ⟨old, oldMember, rfl⟩ := List.mem_map.mp member
  split
  · exact kept old (all old oldMember)
  · exact all old oldMember

theorem All.setContent (all : registry.All holds) (id : EntityId kind) {content : Content}
    (new : holds content) : (registry.setContent id content).All holds :=
  all.modify id fun _ _ => new

theorem All.setName (all : registry.All holds) (id : EntityId kind) (name : Option String) :
    (registry.setName id name).All holds :=
  all.modify id fun _ kept => kept

theorem All.setMetadata (all : registry.All holds) (id : EntityId kind) (metadata : Json) :
    (registry.setMetadata id metadata).All holds :=
  all.modify id fun _ kept => kept

theorem All.mapContent {weaker : Content → Prop} (all : registry.All holds)
    {change : Content → Content} (kept : ∀ content, holds content → weaker (change content)) :
    (registry.mapContent change).All weaker := by
  intro entry member
  obtain ⟨old, oldMember, rfl⟩ := List.mem_map.mp member
  exact kept old.content (all old oldMember)

end All

/-! ## The live ids -/

section Ids

variable (registry : Registry kind Content)

@[simp] theorem ids_add (content : Content) :
    (registry.add content).ids = registry.ids ++ [registry.nextId] := by
  unfold ids add
  rw [List.map_append]
  rfl

theorem ids_modify (id : EntityId kind) (change : Entry kind Content → Entry kind Content)
    (sameId : ∀ entry, (change entry).id = entry.id) :
    (registry.modify id change).ids = registry.ids := by
  unfold ids modify
  rw [List.map_map]
  refine List.map_congr_left fun entry _ => ?_
  show Entry.id (if _ then _ else _) = _
  split
  · exact sameId entry
  · rfl

@[simp] theorem ids_setContent (id : EntityId kind) (content : Content) :
    (registry.setContent id content).ids = registry.ids :=
  registry.ids_modify id _ fun _ => rfl

@[simp] theorem ids_setName (id : EntityId kind) (name : Option String) :
    (registry.setName id name).ids = registry.ids :=
  registry.ids_modify id _ fun _ => rfl

@[simp] theorem ids_setMetadata (id : EntityId kind) (metadata : Json) :
    (registry.setMetadata id metadata).ids = registry.ids :=
  registry.ids_modify id _ fun _ => rfl

@[simp] theorem ids_mapContent (change : Content → Content) :
    (registry.mapContent change).ids = registry.ids := by
  unfold ids mapContent
  rw [List.map_map]
  rfl

theorem mem_ids_remove {id dropped : EntityId kind} :
    id ∈ (registry.remove dropped).ids ↔ id ∈ registry.ids ∧ id ≠ dropped := by
  unfold ids remove
  rw [List.mem_map, List.mem_map]
  constructor
  · rintro ⟨entry, member, rfl⟩
    obtain ⟨kept, different⟩ := List.mem_filter.mp member
    exact ⟨⟨entry, kept, rfl⟩, bne_iff_ne.mp different⟩
  · rintro ⟨⟨entry, member, rfl⟩, different⟩
    exact ⟨entry, List.mem_filter.mpr ⟨member, bne_iff_ne.mpr different⟩, rfl⟩

end Ids

end Registry

end ConicModel
