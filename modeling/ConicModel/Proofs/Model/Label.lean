import ConicModel.Model.Reading
import ConicModel.Proofs.Decimal.Notation
import ConicModel.Proofs.Model.Renumbering
import ConicModel.Proofs.Text.Split

/-!
Contract: the labels under which variables are written.

Owns:
- the characters of labels and of numbers, which are no separators;
- the facts that labels are never taken for numbers, and that different live
  variables have different labels;
- tables of labels, and what they answer.

Does not own: where labels stand in a text.
-/

namespace ConicModel

/-! ## Characters -/

/-- A character outside a class does not occur in a text of that class. -/
theorem Text.not_mem_of_class {inClass : Char → Bool} {text : List Char}
    (all : ∀ character ∈ text, inClass character = true) {character : Char}
    (outside : inClass character = false) : character ∉ text := by
  intro member
  rw [all character member] at outside
  cases outside

namespace Model

def isFactorChar (character : Char) : Bool :=
  isNameChar character || isNumeralChar character || character == '*'

theorem isFactorChar_of_isNameChar {character : Char} (name : isNameChar character = true) :
    isFactorChar character = true := by
  unfold isFactorChar
  rw [name]
  rfl

/-- The letters are the two ranges of the basic alphabet. -/
theorem isAlpha_eq (character : Char) :
    character.isAlpha = (decide (65 ≤ character.val ∧ character.val ≤ 90) ||
      decide (97 ≤ character.val) && decide (character.val ≤ 122)) :=
  rfl

theorem isFactorChar_of_isNumeralChar {character : Char}
    (numeral : isNumeralChar character = true) :
    isFactorChar character = true := by
  unfold isFactorChar
  rw [numeral, Bool.or_true]
  rfl

/-- A character of the basic alphabet, a digit or a sign is no blank. -/
theorem not_isBlank_of_isFactorChar {character : Char} (factor : isFactorChar character = true) :
    Text.isBlank character = false := by
  have alphanumeric : character.isAlphanum = true → Text.isBlank character = false := by
    intro letter
    simp only [Char.isAlphanum, isAlpha_eq, Char.isDigit, Bool.or_eq_true, Bool.and_eq_true,
      decide_eq_true_eq, UInt32.le_iff_toNat_le, Char.reduceVal, UInt32.reduceToNat] at letter
    have code : character.toNat = character.val.toNat := rfl
    simp only [Text.isBlank, code, Bool.or_eq_false_iff, Bool.and_eq_false_iff,
      decide_eq_false_iff_not, beq_eq_false_iff_ne]
    omega
  have signs : ∀ sign ∈ ['.', 'e', '-', '+', 'i', 'n', 'f', 'N', 'a'],
      Text.isBlank sign = false := by decide
  simp only [isFactorChar, isNameChar, isNumeralChar, Bool.or_eq_true, beq_iff_eq] at factor
  rcases factor with ((letter | underscore) | (digit | sign)) | star
  · exact alphanumeric letter
  · subst underscore
    decide
  · apply alphanumeric
    unfold Char.isAlphanum
    rw [digit, Bool.or_true]
  · exact signs character (List.contains_iff_mem.mp sign)
  · subst star
    decide

def StartsLabel (character : Char) : Prop :=
  character.isAlpha = true ∨ character = '_'
deriving Decidable

theorem StartsLabel.not_numeral {character : Char} (starts : StartsLabel character) :
    ¬ (character = '-' ∨ character.isDigit = true) := by
  rcases starts with letter | rfl
  · rintro (rfl | digit)
    · revert letter
      decide
    · simp only [isAlpha_eq, Char.isDigit, Bool.or_eq_true, Bool.and_eq_true, decide_eq_true_eq,
        UInt32.le_iff_toNat_le, Char.reduceVal, UInt32.reduceToNat] at letter digit
      omega
  · decide

/-! ## Names -/

theorem valid_name {name : String} (valid : isValidName name = true) :
    reservedNames.contains name = false ∧
      ∃ first others, name.toList = first :: others ∧ first.isAlpha = true ∧
        ∀ character ∈ name.toList, isNameChar character = true := by
  unfold isValidName at valid
  rw [Bool.and_eq_true, Bool.not_eq_true'] at valid
  obtain ⟨unreserved, spelled⟩ := valid
  refine ⟨unreserved, ?_⟩
  cases letters : name.toList with
  | nil =>
    rw [letters] at spelled
    cases spelled
  | cons first others =>
    rw [letters] at spelled
    obtain ⟨letter, rest⟩ := (Bool.and_eq_true _ _).mp spelled
    refine ⟨first, others, rfl, letter, List.forall_mem_cons.mpr ⟨?_, List.all_eq_true.mp rest⟩⟩
    unfold isNameChar Char.isAlphanum
    rw [letter]
    rfl

/-! ## Labels -/

section Labels

variable {model : Model Float}

theorem labelChars_named {id : VariableId} {name : String}
    (named : model.vars.name? id = some name) :
    model.labelChars id = name.toList := by
  unfold labelChars label
  rw [named]
  rfl

theorem labelChars_unnamed {id : VariableId} (unnamed : model.vars.name? id = none) :
    model.labelChars id = '_' :: 'v' :: decimalDigits id.number := by
  unfold labelChars label
  rw [unnamed]
  show ("_v" ++ toString id.number).toList = _
  rw [String.toList_append, Nat.toString_eq_repr, Nat.toList_repr]
  rfl

variable (wellFormed : model.vars.WellFormed)
include wellFormed

theorem isNameChar_labelChars (id : VariableId) :
    ∀ character ∈ model.labelChars id, isNameChar character = true := by
  cases named : model.vars.name? id with
  | some name =>
    obtain ⟨_, _, _, _, _, letters⟩ := valid_name (wellFormed.isValidName_of_name? named)
    rw [labelChars_named named]
    exact letters
  | none =>
    rw [labelChars_unnamed named, List.forall_mem_cons, List.forall_mem_cons]
    refine ⟨rfl, rfl, fun character member => ?_⟩
    unfold isNameChar Char.isAlphanum
    rw [isDigit_of_mem_decimalDigits member, Bool.or_true]
    rfl

/-- A label begins like no number. -/
theorem labelChars_head (id : VariableId) :
    ∃ first others, model.labelChars id = first :: others ∧ StartsLabel first := by
  cases named : model.vars.name? id with
  | some name =>
    obtain ⟨_, first, others, spelled, letter, _⟩ := valid_name (wellFormed.isValidName_of_name? named)
    exact ⟨first, others, (labelChars_named named).trans spelled, .inl letter⟩
  | none => exact ⟨'_', _, labelChars_unnamed named, .inr rfl⟩

theorem token_labelChars (id : VariableId) : Text.Token (model.labelChars id) where
  filled := by
    obtain ⟨first, others, spelled, _⟩ := labelChars_head wellFormed id
    rw [spelled]
    exact List.cons_ne_nil _ _
  solid character member := not_isBlank_of_isFactorChar
    (isFactorChar_of_isNameChar (isNameChar_labelChars wellFormed id character member))

/-- A label that was made up is recognized, and no name looks like one. -/
theorem isUnnamed_labelChars (id : VariableId) :
    Reader.isUnnamed (model.labelChars id) = (model.vars.name? id).isNone := by
  cases named : model.vars.name? id with
  | some name =>
    obtain ⟨_, first, others, spelled, letter, _⟩ := valid_name (wellFormed.isValidName_of_name? named)
    have different : ¬ ['_', 'v'] <+: first :: others := by
      intro start
      rw [← (List.cons_prefix_cons.mp start).1] at letter
      revert letter
      decide
    unfold Reader.isUnnamed
    rw [labelChars_named named, spelled, Text.afterLiteral_eq_none different]
    rfl
  | none =>
    have digits : (decimalDigits id.number).all Char.isDigit = true :=
      List.all_eq_true.mpr fun _ member => isDigit_of_mem_decimalDigits member
    have filled : (decimalDigits id.number).isEmpty = false :=
      List.isEmpty_eq_false_iff.mpr (decimalDigits_ne_nil _)
    have after := Text.afterLiteral_append ['_', 'v'] (decimalDigits id.number)
    rw [List.cons_append, List.singleton_append] at after
    unfold Reader.isUnnamed
    rw [labelChars_unnamed named, after]
    dsimp only
    rw [digits, filled]
    rfl

/-- Different ids have different labels: names differ, made-up labels carry the
number, and only the latter begin with an underscore. -/
theorem labelChars_injective {left right : VariableId}
    (same : model.labelChars left = model.labelChars right) : left = right := by
  have apart : ∀ {named unnamed : VariableId} {name : String},
      model.vars.name? named = some name → model.vars.name? unnamed = none →
      model.labelChars named ≠ model.labelChars unnamed := by
    intro named unnamed name has hasNot equal
    obtain ⟨_, first, others, spelled, letter, _⟩ := valid_name (wellFormed.isValidName_of_name? has)
    rw [labelChars_named has, labelChars_unnamed hasNot, spelled] at equal
    injection equal with underscore
    rw [underscore] at letter
    revert letter
    decide
  cases leftNamed : model.vars.name? left with
  | some name =>
    cases rightNamed : model.vars.name? right with
    | some other =>
      rw [labelChars_named leftNamed, labelChars_named rightNamed, String.toList_inj] at same
      subst same
      obtain ⟨first, firstFound, firstHas⟩ := Option.bind_eq_some_iff.mp leftNamed
      obtain ⟨second, secondFound, secondHas⟩ := Option.bind_eq_some_iff.mp rightNamed
      obtain ⟨firstMember, rfl⟩ := Registry.mem_of_entry?_eq firstFound
      obtain ⟨secondMember, rfl⟩ := Registry.mem_of_entry?_eq secondFound
      exact wellFormed.id_of_name firstMember secondMember firstHas secondHas
    | none => exact absurd same (apart leftNamed rightNamed)
  | none =>
    cases rightNamed : model.vars.name? right with
    | some other => exact absurd same.symm (apart rightNamed leftNamed)
    | none =>
      rw [labelChars_unnamed leftNamed, labelChars_unnamed rightNamed] at same
      injection same with _ same
      injection same with _ digits
      have numbers := congrArg (digitsValue 0) digits
      rw [digitsValue_decimalDigits, digitsValue_decimalDigits] at numbers
      obtain ⟨number⟩ := left
      exact congrArg EntityId.mk numbers

end Labels

/-! ## Tables of labels -/

namespace Reader

variable {Subject : Type} {key : Subject → List Char} {value : Subject → VariableId}

theorem lookup_map : ∀ {subjects : List Subject} {subject : Subject},
    (∀ other ∈ subjects, key other = key subject → other = subject) → subject ∈ subjects →
    lookup (subjects.map fun subject => (key subject, value subject)) (key subject) =
      some (value subject)
  | first :: others, subject, single, member => by
    unfold lookup
    rw [List.map_cons, List.find?_cons]
    by_cases same : key first = key subject
    · rw [single first List.mem_cons_self same, beq_self_eq_true]
      rfl
    · rw [beq_eq_false_iff_ne.mpr same]
      have later : subject ∈ others := by
        rcases List.mem_cons.mp member with rfl | later
        · exact absurd rfl same
        · exact later
      exact lookup_map (fun other inside => single other (List.mem_cons_of_mem _ inside)) later

theorem lookup_eq_none {subjects : List Subject} {label : List Char}
    (absent : ∀ subject ∈ subjects, key subject ≠ label) :
    lookup (subjects.map fun subject => (key subject, value subject)) label = none := by
  unfold lookup
  rw [List.find?_eq_none.mpr]
  · rfl
  · rw [List.forall_mem_map]
    exact fun subject member same => absent subject member (beq_iff_eq.mp same)

end Reader

def table (model : Model Float) : List (List Char × VariableId) :=
  model.vars.ids.map fun id => (model.labelChars id, model.vars.place id)

section Table

variable {model : Model Float} (wellFormed : model.vars.WellFormed)
include wellFormed

theorem lookup_label {id : VariableId} (live : id ∈ model.vars.ids) :
    Reader.lookup model.table (model.labelChars id) = some (model.vars.place id) :=
  Reader.lookup_map (fun _ _ same => labelChars_injective wellFormed same) live

/-- Nothing that begins like no label is a label. -/
theorem lookup_foreign {first : Char} (others : List Char) (foreign : ¬ StartsLabel first) :
    Reader.lookup model.table (first :: others) = none := by
  refine Reader.lookup_eq_none fun id _ same => ?_
  obtain ⟨head, _, spelled, starts⟩ := labelChars_head wellFormed id
  rw [spelled] at same
  injection same with same
  exact foreign (same ▸ starts)

end Table

end Model

end ConicModel
