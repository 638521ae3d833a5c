import ConicModel.Json.Reading

/-!
Contract: types whose values have a JSON form.

Owns:
- the class of these types, with writing and reading by way of text;
- the forms of numbers, texts, lists and absent values;
- the conventions for alternatives and for records.

Does not own: the forms of the types of the model.

An alternative without content is its name, and one with content is a record
with one field.  A record may also be read from the list of its fields in
order.  A reader takes every whole number for a floating one, and no floating
number for a whole one.

This is one format among others: what is known of sets, bounds and matrices that are
written and read again is known of every `Interchange`.
-/

namespace ConicModel

/-- A type whose values have a JSON form. -/
class JsonForm (α : Type) where
  /-- The form of a value. -/
  write : α → Json
  /-- The value of a form. -/
  read : Json → Option α
  /-- The value that a missing field of a record stands for. -/
  readMissing : Option α := none

namespace JsonForm

variable {α : Type}

def text [JsonForm α] (value : α) : String :=
  (write value).compact

def ofText? [JsonForm α] (text : String) : Option α :=
  (Json.read text).bind read

/-! ## Alternatives -/

def tagged [JsonForm α] (name : String) (content : α) : Json :=
  .record [(name, write content)]

/-- The name of an alternative, and its content if it has one. -/
def splitTag : Json → Option (String × Option Json)
  | .string name => some (name, none)
  | .record [(name, content)] => some (name, some content)
  | _ => none

def readName (json : Json) : Option String :=
  match splitTag json with
  | some (name, none) => some name
  | some (name, some .null) => some name
  | _ => none

/-- The form of a type whose values are alternatives without content. -/
@[reducible] def ofNames (all : List α) (name : α → String) : JsonForm α where
  write := fun value => .string (name value)
  read := fun json => (readName json).bind fun found => all.find? fun value => name value == found

/-! ## Records -/

/-- The fields of a record in the given order; a missing one is absent. -/
def columns (names : List String) : Json → Option (List (Option Json))
  | .record fields =>
    some (names.map fun name => (fields.find? fun entry => entry.1 == name).map Prod.snd)
  | .list items => if items.length = names.length then some (items.map some) else none
  | _ => none

def readColumn [JsonForm α] : Option Json → Option α
  | some json => read json
  | none => readMissing

/-! ## Basic forms -/

instance : JsonForm Float where
  write := .number
  read
    | .integer value => some (Binary64.ofInt value)
    | .number value => some value
    | _ => none

instance : JsonForm String where
  write := .string
  read
    | .string value => some value
    | _ => none

/-- A whole number, if it is not negative and below a limit. -/
def readBelow (limit : Nat) : Json → Option Nat
  | .integer value => if 0 ≤ value ∧ value < limit then some value.toNat else none
  | _ => none

/-- Numbers of things are below `2 ^ 64`. -/
instance : JsonForm Nat where
  write := fun value => .integer value
  read := readBelow (Nat.pow 2 64)

instance [JsonForm α] : JsonForm (Option α) where
  write
    | some value => write value
    | none => .null
  read
    | .null => some none
    | json => (read json).map some
  readMissing := some none

instance [JsonForm α] : JsonForm (List α) where
  write := fun values => .list (values.map write)
  read
    | .list items => items.mapM read
    | _ => none

end JsonForm

end ConicModel
