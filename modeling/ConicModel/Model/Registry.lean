import ConicModel.Entity
import ConicModel.Json.Value

/-!
Contract: the live entities of one kind, in order of creation.

Owns:
- handing out ids, each one larger than all before;
- look-up, replacement and removal by id;
- the names and the metadata that an entity carries.

Does not own: which names are allowed, or that they differ.  A name belongs to
its entry, so it cannot outlive it.
-/

namespace ConicModel

structure Entry (kind : EntityKind) (Content : Type) where
  id : EntityId kind
  content : Content
  name : Option String := none
  metadata : Option Json := none

/-- The live entities of one kind, oldest first, and the number of the next id. -/
structure Registry (kind : EntityKind) (Content : Type) where
  entries : List (Entry kind Content) := []
  next : Nat := 0

namespace Registry

variable {kind : EntityKind} {Content : Type}

def size (registry : Registry kind Content) : Nat :=
  registry.entries.length

def ids (registry : Registry kind Content) : List (EntityId kind) :=
  registry.entries.map Entry.id

def entry? (registry : Registry kind Content) (id : EntityId kind) :
    Option (Entry kind Content) :=
  registry.entries.find? fun entry => entry.id == id

def content? (registry : Registry kind Content) (id : EntityId kind) : Option Content :=
  (registry.entry? id).map Entry.content

def contains (registry : Registry kind Content) (id : EntityId kind) : Bool :=
  registry.entries.any fun entry => entry.id == id

def nextId (registry : Registry kind Content) : EntityId kind :=
  ⟨registry.next⟩

/-- Adds an entity without annotations under the next id. -/
def add (registry : Registry kind Content) (content : Content) : Registry kind Content :=
  ⟨registry.entries ++ [{ id := registry.nextId, content := content }], registry.next + 1⟩

def remove (registry : Registry kind Content) (id : EntityId kind) : Registry kind Content :=
  { registry with entries := registry.entries.filter fun entry => entry.id != id }

/-- Replaces the entry of an id; the replacement keeps the id. -/
def modify (registry : Registry kind Content) (id : EntityId kind)
    (change : Entry kind Content → Entry kind Content) : Registry kind Content :=
  { registry with
    entries := registry.entries.map fun entry => if entry.id == id then change entry else entry }

def mapContent (registry : Registry kind Content) (change : Content → Content) :
    Registry kind Content :=
  { registry with
    entries := registry.entries.map fun entry => { entry with content := change entry.content } }

def name? (registry : Registry kind Content) (id : EntityId kind) : Option String :=
  (registry.entry? id).bind Entry.name

def holder? (registry : Registry kind Content) (name : String) : Option (EntityId kind) :=
  (registry.entries.find? fun entry => entry.name == some name).map Entry.id

def namedCount (registry : Registry kind Content) : Nat :=
  (registry.entries.filter fun entry => entry.name.isSome).length

def metadata? (registry : Registry kind Content) (id : EntityId kind) : Option Json :=
  (registry.entry? id).bind Entry.metadata

def setName (registry : Registry kind Content) (id : EntityId kind) (name : Option String) :
    Registry kind Content :=
  registry.modify id fun entry => { entry with name := name }

def setMetadata (registry : Registry kind Content) (id : EntityId kind) (metadata : Json) :
    Registry kind Content :=
  registry.modify id fun entry => { entry with metadata := some metadata }

def setContent (registry : Registry kind Content) (id : EntityId kind) (content : Content) :
    Registry kind Content :=
  registry.modify id fun entry => { entry with content := content }

end Registry

end ConicModel
