import ConicModel.Proofs.Model.Expression

/-!
Contract: sets, functions and relations read back from their written form.

Owns:
- sets whose parameters can be read, and their round trip;
- the round trip of functions;
- the relation between a left side and a set, as comparison or as membership,
  and its round trip;
- the characters of written relations.

Does not own: what a relation changes.
-/

namespace ConicModel

/-! ## Sizes -/

/-- Digits are read as a size without looking for a sign. -/
theorem readSize_of_digits {text : List Char} (filled : text ≠ [])
    (digits : ∀ character ∈ text, character.isDigit = true) :
    readSize text =
      if digitsValue 0 text < Nat.pow 2 64 then some (digitsValue 0 text) else none := by
  have all : text.all Char.isDigit = true := List.all_eq_true.mpr digits
  unfold readSize
  split
  · exact absurd (digits '+' List.mem_cons_self) (by decide)
  · simp [filled, all]

theorem readSize_decimalDigits {size : Nat} (small : size < 2 ^ 64) :
    readSize (decimalDigits size) = some size := by
  rw [readSize_of_digits (decimalDigits_ne_nil size) fun _ => isDigit_of_mem_decimalDigits,
    digitsValue_decimalDigits]
  exact if_pos small

/-! ## Sets -/

/-- The greatest number that occurs while the dimension of a cone is computed. -/
def Cone.extent : Cone → Nat → Nat
  | semidefiniteTriangle, side => side * (side + 1)
  | semidefiniteSquare, side => side * side
  | _, size => size

theorem Cone.le_extent (kind : Cone) (size : Nat) : size ≤ kind.extent size := by
  cases kind with
  | semidefiniteTriangle => exact Nat.le_mul_of_pos_right size (Nat.succ_pos size)
  | semidefiniteSquare => exact Nat.le_mul_self size
  | _ => exact Nat.le_refl size

namespace ConstraintSet

/-- A set whose dimension, if it has a size, can be computed with 64 bits. -/
def Sized : ConstraintSet Float → Prop
  | cone kind size => kind.extent size < 2 ^ 64
  | _ => True

instance : DecidablePred Sized
  | cone kind size => inferInstanceAs (Decidable (kind.extent size < 2 ^ 64))
  | lessThan _ | greaterThan _ | equalTo _ | interval _ _ | integer | zeroOne => .isTrue trivial

/-- A set whose parameters read back: no undefined number, and a size that fits
into 64 bits. -/
def Readable : ConstraintSet Float → Prop
  | lessThan bound => bound.isNaN = false
  | greaterThan bound => bound.isNaN = false
  | equalTo value => value.isNaN = false
  | interval lower upper => lower.isNaN = false ∧ upper.isNaN = false
  | integer => True
  | zeroOne => True
  | cone _ size => size < 2 ^ 64

theorem isNumeralChar_parameters (set : ConstraintSet Float) :
    ∀ parameter ∈ set.parameters, ∀ character ∈ parameter, isNumeralChar character = true := by
  have written := NumberLayout.isNumeralChar_write NumberLayout.plain
  cases set with
  | lessThan bound => exact List.forall_mem_singleton.mpr (written bound)
  | greaterThan bound => exact List.forall_mem_singleton.mpr (written bound)
  | equalTo value => exact List.forall_mem_singleton.mpr (written value)
  | interval lower upper =>
    exact List.forall_mem_cons.mpr ⟨written lower, List.forall_mem_singleton.mpr (written upper)⟩
  | integer => exact List.forall_mem_nil _
  | zeroOne => exact List.forall_mem_nil _
  | cone kind size => exact List.forall_mem_singleton.mpr (isNumeralChar_decimalDigits size)

theorem parameters_filled {set : ConstraintSet Float} (readable : set.Readable) :
    ∀ parameter ∈ set.parameters, parameter ≠ [] := by
  have written := fun {value : Float} (defined : value.isNaN = false) =>
    NumberLayout.write_ne_nil NumberLayout.plain defined
  cases set with
  | lessThan bound => exact List.forall_mem_singleton.mpr (written readable)
  | greaterThan bound => exact List.forall_mem_singleton.mpr (written readable)
  | equalTo value => exact List.forall_mem_singleton.mpr (written readable)
  | interval lower upper =>
    exact List.forall_mem_cons.mpr
      ⟨written readable.1, List.forall_mem_singleton.mpr (written readable.2)⟩
  | integer => exact List.forall_mem_nil _
  | zeroOne => exact List.forall_mem_nil _
  | cone kind size => exact List.forall_mem_singleton.mpr (decimalDigits_ne_nil size)

theorem token_parameter {set : ConstraintSet Float} (readable : set.Readable)
    {parameter : List Char}
    (member : parameter ∈ set.parameters) : Text.Token parameter where
  filled := parameters_filled readable parameter member
  solid character inside := Model.not_isBlank_of_isFactorChar
    (Model.isFactorChar_of_isNumeralChar
      (set.isNumeralChar_parameters parameter member character inside))

/-- The name of a set is a word of letters. -/
theorem name_letters (set : ConstraintSet Float) :
    set.name.toList ≠ [] ∧ ∀ character ∈ set.name.toList, character.isAlpha = true := by
  have cones : ∀ kind : Cone,
      kind.name.toList ≠ [] ∧ ∀ character ∈ kind.name.toList, character.isAlpha = true := by
    intro kind
    cases kind <;> decide
  have scalars : ∀ name ∈ ["LessThan", "GreaterThan", "EqualTo", "Interval", "Integer", "ZeroOne"],
      name.toList ≠ [] ∧ ∀ character ∈ name.toList, character.isAlpha = true := by decide
  cases set with
  | lessThan bound => exact scalars "LessThan" (by decide)
  | greaterThan bound => exact scalars "GreaterThan" (by decide)
  | equalTo value => exact scalars "EqualTo" (by decide)
  | interval lower upper => exact scalars "Interval" (by decide)
  | integer => exact scalars "Integer" (by decide)
  | zeroOne => exact scalars "ZeroOne" (by decide)
  | cone kind size => exact cones kind

theorem isNameChar_name (set : ConstraintSet Float) :
    ∀ character ∈ set.name.toList, Model.isNameChar character = true := by
  intro character member
  unfold Model.isNameChar Char.isAlphanum
  rw [set.name_letters.2 character member]
  rfl

theorem token_name (set : ConstraintSet Float) : Text.Token set.name.toList where
  filled := set.name_letters.1
  solid character member := Model.not_isBlank_of_isFactorChar
    (Model.isFactorChar_of_isNameChar (set.isNameChar_name character member))

end ConstraintSet

namespace Model

theorem dimension_decimalDigits {size : Nat} (small : size < 2 ^ 64) :
    Reader.dimension (decimalDigits size) = .ok size := by
  unfold Reader.dimension
  rw [readSize_decimalDigits small]

theorem namedSet_cone (kind : Cone) (size : List Char) :
    Reader.namedSet kind.name.toList [size] = (do return .cone kind (← Reader.dimension size)) := by
  cases kind <;> rfl

theorem namedSet_parameters {set : ConstraintSet Float} (readable : set.Readable) :
    Reader.namedSet set.name.toList set.parameters = .ok set := by
  cases set with
  | lessThan bound =>
    have named : ∀ text, Reader.namedSet "LessThan".toList [text] =
        (do return .lessThan (← Reader.number text)) := fun _ => rfl
    refine (named _).trans ?_
    rw [number_write readable]
    rfl
  | greaterThan bound =>
    have named : ∀ text, Reader.namedSet "GreaterThan".toList [text] =
        (do return .greaterThan (← Reader.number text)) := fun _ => rfl
    refine (named _).trans ?_
    rw [number_write readable]
    rfl
  | equalTo value =>
    have named : ∀ text, Reader.namedSet "EqualTo".toList [text] =
        (do return .equalTo (← Reader.number text)) := fun _ => rfl
    refine (named _).trans ?_
    rw [number_write readable]
    rfl
  | interval lower upper =>
    have named : ∀ first second, Reader.namedSet "Interval".toList [first, second] = (do
        let lower ← Reader.number first
        let upper ← Reader.number second
        return .interval lower upper) := fun _ _ => rfl
    refine (named _ _).trans ?_
    rw [number_write readable.1, number_write readable.2]
    rfl
  | integer => rfl
  | zeroOne => rfl
  | cone kind size =>
    refine (namedSet_cone kind _).trans ?_
    rw [dimension_decimalDigits readable]
    rfl

def enclosed (name : List Char) (parameters : List (List Char)) : List Char :=
  name ++ '(' :: (Text.join [',', ' '] parameters ++ [')'])

/-- What is written as a set is read as one: by its name, and by its parameters one by one. -/
theorem set_enclosed {name : List Char} (token : Text.Token name) (unopened : '(' ∉ name)
    {parameters : List (List Char)} (good : ∀ parameter ∈ parameters, Text.Token parameter)
    (apart : ∀ parameter ∈ parameters, ',' ∉ parameter) :
    Reader.set (enclosed name parameters) = Reader.namedSet name parameters := by
  have closed : enclosed name parameters =
      (name ++ (['('] ++ Text.join [',', ' '] parameters)) ++ [')'] := by
    simp [enclosed]
  have split : Reader.splitSet (enclosed name parameters) =
      some (name, Text.join [',', ' '] parameters) := by
    unfold Reader.splitSet
    rw [closed, Text.beforeLast_append]
    exact Text.cut_of_not_mem unopened _
  have pieces : Text.filledPieces (Text.join [',', ' '] parameters) = parameters := by
    apply Text.filledPieces_join
    · intro parameter member
      exact ⟨(good parameter member).tight, apart parameter member⟩
    · intro parameter member
      exact (good parameter member).filled
  unfold Reader.set
  rw [split]
  dsimp only
  rw [token.tight.trim_eq, pieces]

/-- What is written as a set begins with a letter and ends with a parenthesis. -/
theorem tight_enclosed {name : List Char} (token : Text.Token name)
    (parameters : List (List Char)) : Text.Tight (enclosed name parameters) := by
  have closing : Text.Tight [')'] := ⟨by decide, by decide⟩
  have parts := token.tight.append closing (['('] ++ Text.join [',', ' '] parameters) token.filled
    (List.cons_ne_nil _ _)
  rw [List.append_assoc, List.singleton_append] at parts
  exact parts

/-- A set reads back from its written form. -/
theorem set_chars {set : ConstraintSet Float} (readable : set.Readable) :
    Reader.set set.chars = .ok set := by
  have unopened : '(' ∉ set.name.toList := Text.not_mem_of_class set.isNameChar_name rfl
  have apart : ∀ parameter ∈ set.parameters, ',' ∉ parameter := fun parameter member =>
    Text.not_mem_of_class (set.isNumeralChar_parameters parameter member) rfl
  have read := set_enclosed set.token_name unopened
    (fun _ member => ConstraintSet.token_parameter readable member) apart
  exact read.trans (namedSet_parameters readable)

/-- A written set begins with a letter and ends with a parenthesis. -/
theorem tight_chars (set : ConstraintSet Float) : Text.Tight set.chars :=
  tight_enclosed set.token_name set.parameters

theorem token_write {value : Float} (defined : value.isNaN = false) :
    Text.Token (NumberLayout.plain.write value) where
  filled := NumberLayout.write_ne_nil _ defined
  solid character member := not_isBlank_of_isFactorChar
    (isFactorChar_of_isNumeralChar (NumberLayout.isNumeralChar_write _ value character member))

/-! ## Functions -/

section Functions

variable {model : Model Float}

def functionChars (model : Model Float) : ConstraintFunction Float → List Char
  | .scalar expr => model.exprChars expr
  | .vector components =>
    '[' :: (Text.join [',', ' '] (components.map model.exprChars) ++ [']'])

def GoodFunction (model : Model Float) (function : ConstraintFunction Float) : Prop :=
  ∀ expr ∈ function.components, expr.Stored model.vars.ids ∧ expr.checkFinite = .ok ()

variable (wellFormed : model.vars.WellFormed)
include wellFormed

/-- Written components, joined, are a side that begins like a number. -/
theorem side_join : ∀ {components : List (Expr Float)}, components ≠ [] →
    (∀ expr ∈ components, expr.Stored model.vars.ids ∧ expr.checkFinite = .ok ()) →
    Side isSideChar (Text.join [',', ' '] (components.map model.exprChars)) ∧
      StartsNumeral (Text.join [',', ' '] (components.map model.exprChars))
  | [expr], _, good => by
    obtain ⟨stored, finite⟩ := good expr List.mem_cons_self
    obtain ⟨side, starts⟩ := side_exprChars wellFormed stored finite
    exact ⟨side.mono isSideChar_of_isExprChar, starts⟩
  | expr :: next :: others, _, good => by
    obtain ⟨⟨stored, finite⟩, rest⟩ := List.forall_mem_cons.mp good
    obtain ⟨side, starts⟩ := side_exprChars wellFormed stored finite
    obtain ⟨restSide, restStarts⟩ := side_join (List.cons_ne_nil next others) rest
    have letter : ¬ ('i' = '-' ∨ 'i'.isDigit = true) := by decide
    have joined : Text.join [',', ' '] ((expr :: next :: others).map model.exprChars) =
        model.exprChars expr ++ ([',', ' '] ++
          Text.join [',', ' '] ((next :: others).map model.exprChars)) := by
      rw [List.map_cons, List.map_cons, Text.join, List.append_assoc]
      exact List.cons_ne_nil _ _
    rw [joined]
    exact ⟨(side.mono isSideChar_of_isExprChar).append restSide (by decide)
        (by simp [Text.Guarded]) (by decide) (by decide) (restStarts.head_ne letter),
      starts.append _⟩

/-- A written function is a side. -/
theorem side_functionChars {function : ConstraintFunction Float}
    (good : GoodFunction model function)
    (filled : function.components ≠ []) : Side isSideChar (model.functionChars function) := by
  cases function with
  | scalar expr =>
    obtain ⟨stored, finite⟩ := good expr List.mem_cons_self
    exact (side_exprChars wellFormed stored finite).1.mono isSideChar_of_isExprChar
  | vector components =>
    obtain ⟨side, starts⟩ := side_join wellFormed filled good
    have letter : ¬ ('i' = '-' ∨ 'i'.isDigit = true) := by decide
    have opening : Side isSideChar ['['] := ⟨by decide, ⟨by decide, by decide⟩,
      by simp [Text.Guarded], by decide⟩
    have closing : Side isSideChar [']'] := ⟨by decide, ⟨by decide, by decide⟩,
      by simp [Text.Guarded], by decide⟩
    exact opening.append closing side.filled side.guarded side.chars (starts.head_ne letter)
      (by decide)

theorem components_map : ∀ {components : List (Expr Float)},
    (∀ expr ∈ components, expr.Stored model.vars.ids ∧ expr.checkFinite = .ok ()) →
    Reader.components model.table (components.map model.exprChars) =
      .ok (components.map (reread model.vars.place))
  | [], _ => rfl
  | expr :: others, good => by
    obtain ⟨⟨stored, finite⟩, rest⟩ := List.forall_mem_cons.mp good
    rw [List.map_cons, Reader.components, expression_exprChars wellFormed stored finite,
      components_map rest]
    rfl

omit wellFormed in
/-- What stands in brackets is read as components. -/
theorem function_of_bracket {written inner : List Char}
    (closed : Text.beforeLast ']' written = some inner) :
    Reader.function model.table ('[' :: written) =
      (do return .vector (← Reader.components model.table (Text.commaPieces inner))) := by
  unfold Reader.function
  split
  · rename_i same
    cases same
    rw [closed]
  · rename_i other
    exact absurd rfl (other written)

/-- A function reads back, under the places of its variables. -/
theorem function_functionChars {function : ConstraintFunction Float}
    (good : GoodFunction model function) (filled : function.components ≠ []) :
    Reader.function model.table (model.functionChars function) =
      .ok (function.map (reread model.vars.place)) := by
  cases function with
  | scalar expr =>
    obtain ⟨stored, finite⟩ := good expr List.mem_cons_self
    obtain ⟨first, others, written, numeral⟩ := (side_exprChars wellFormed stored finite).2
    have read := expression_exprChars wellFormed stored finite
    have bracket : first ≠ '[' := by
      rintro rfl
      revert numeral
      decide
    unfold functionChars Reader.function
    dsimp only
    rw [written] at *
    split
    · rename_i same
      injection same with same
      exact absurd same bracket
    · rw [read]
      rfl
  | vector components =>
    have some : components ≠ [] := filled
    have goodComponents : ∀ expr ∈ components, expr.Stored model.vars.ids ∧
      expr.checkFinite = .ok () := good
    have tight : ∀ piece ∈ components.map model.exprChars, Text.Tight piece ∧ ',' ∉ piece := by
      refine List.forall_mem_map.mpr fun expr member => ?_
      obtain ⟨side, _⟩ := side_exprChars wellFormed (good expr member).1 (good expr member).2
      exact ⟨side.tight, Text.not_mem_of_class side.chars rfl⟩
    have pieces := Text.commaPieces_join (fun none => some (List.map_eq_nil_iff.mp none)) tight
    have opened : Text.beforeLast ']'
        (Text.join [',', ' '] (components.map model.exprChars) ++ [']']) =
          .some (Text.join [',', ' '] (components.map model.exprChars)) :=
      Text.beforeLast_append _ _
    show Reader.function _ ('[' :: _) = _
    rw [function_of_bracket opened, pieces, components_map wellFormed goodComponents]
    rfl

end Functions

/-! ## Relations -/

def relationChars (left : List Char) (set : ConstraintSet Float) : List Char :=
  match comparison? set with
  | some (operator, bound) => related left operator (NumberLayout.plain.write bound)
  | none => related left membership set.chars

theorem constraintChars_eq (model : Model Float) {constraint : Constraint Float}
    (shape : Constraint.checkShape constraint.function constraint.set = .ok ()) :
    model.constraintChars constraint =
      relationChars (model.functionChars constraint.function) constraint.set := by
  obtain ⟨function, set⟩ := constraint
  unfold constraintChars relationChars
  cases function with
  | scalar expr => rfl
  | vector components =>
    cases set with
    | cone kind size => rfl
    | _ => cases shape

theorem related_eq (left operator right : List Char) :
    related left operator right = (left ++ ' ' :: operator) ++ ' ' :: right := by
  unfold related
  rw [List.append_assoc, List.cons_append]

section Relations

variable {left : List Char} (side : Side isSideChar left)
include side

theorem relation_membership {right : List Char} {set : ConstraintSet Float}
    (tight : Text.Tight right) (read : Reader.set right = .ok set) :
    Reader.relation (related left membership right) = .ok (left, set) := by
  have found : Text.cut [' ', 'i', 'n', ' '] (related left membership right) =
      some (left, right) := side.guarded.cut_membership right
  unfold Reader.relation
  rw [found]
  dsimp only
  rw [side.tight.trim_eq, tight.trim_eq, read]
  rfl

/-- The word `in` is not found in a comparison. -/
theorem cut_comparison (operator : List Char) {right : List Char}
    (guarded : Text.Guarded (' ' :: operator)) (solid : ' ' ∉ right) :
    Text.cut [' ', 'i', 'n', ' '] (related left operator right) = none := by
  have seam : ∀ next ∈ (' ' :: operator).head?, next ≠ 'i' := by
    rintro next ⟨⟩
    decide
  rw [related_eq]
  exact (side.guarded.append guarded seam).cut_membership_none solid

theorem relation_comparison {set : ConstraintSet Float} {operator : List Char} {bound : Float}
    (compares : comparison? set = some (operator, bound)) (defined : bound.isNaN = false) :
    Reader.relation (related left operator (NumberLayout.plain.write bound)) = .ok (left, set) := by
  have numeral := NumberLayout.isNumeralChar_write NumberLayout.plain bound
  have token := token_write defined
  have solid : ' ' ∉ NumberLayout.plain.write bound := Text.not_mem_of_class numeral rfl
  have absentLeft : ∀ character, isSideChar character = false → character ≠ ' ' →
      character ∉ left ++ [' '] := by
    intro character outside different
    rw [List.mem_append, List.mem_singleton, not_or]
    exact ⟨Text.not_mem_of_class side.chars outside, different⟩
  have absent : ∀ character operator, isSideChar character = false → character ≠ ' ' →
      isNumeralChar character = false → character ∉ operator →
      character ∉ (left ++ [' ']) ++ (operator ++ ' ' :: NumberLayout.plain.write bound) := by
    intro character operator outside different noNumeral other
    exact List.not_mem_append (absentLeft character outside different)
      (List.not_mem_append other (List.not_mem_cons_of_ne_of_not_mem different
        (Text.not_mem_of_class numeral noNumeral)))
  have parts : ∀ operator, related left operator (NumberLayout.plain.write bound) =
      (left ++ [' ']) ++ (operator ++ ' ' :: NumberLayout.plain.write bound) := by
    intro operator
    unfold related
    rw [List.append_assoc, List.singleton_append]
  have trimLeft := side.tight.trim_append_blank side.filled
  have trimRight := token.tight.trim_blank_cons
  have read := number_write defined
  unfold Reader.relation Reader.splitComparison
  cases set with
  | lessThan value =>
    cases compares
    rw [cut_comparison side _ (by simp [Text.Guarded]) solid, parts,
      Text.cut_of_not_mem (absentLeft '<' (by decide) (by decide))]
    dsimp only
    rw [trimLeft, trimRight, read]
    rfl
  | greaterThan value =>
    cases compares
    have noLess := absent '<' ['>', '='] (by decide) (by decide) (by decide) (by decide)
    rw [cut_comparison side _ (by simp [Text.Guarded]) solid, parts,
      Text.cut_none_of_not_mem List.mem_cons_self noLess,
      Text.cut_of_not_mem (absentLeft '>' (by decide) (by decide))]
    dsimp only
    rw [trimLeft, trimRight, read]
    rfl
  | equalTo value =>
    cases compares
    have noLess := absent '<' ['=', '='] (by decide) (by decide) (by decide) (by decide)
    have noGreater := absent '>' ['=', '='] (by decide) (by decide) (by decide) (by decide)
    rw [cut_comparison side _ (by simp [Text.Guarded]) solid, parts,
      Text.cut_none_of_not_mem List.mem_cons_self noLess,
      Text.cut_none_of_not_mem List.mem_cons_self noGreater,
      Text.cut_of_not_mem (absentLeft '=' (by decide) (by decide))]
    dsimp only [Option.map]
    rw [trimLeft, trimRight, read]
    rfl
  | interval lower upper => cases compares
  | integer => cases compares
  | zeroOne => cases compares
  | cone kind size => cases compares

/-- A written relation reads back as its left side and its set. -/
theorem relation_relationChars {set : ConstraintSet Float} (readable : set.Readable) :
    Reader.relation (relationChars left set) = .ok (left, set) := by
  unfold relationChars
  split
  · rename_i operator bound compares
    refine relation_comparison side compares ?_
    cases set <;> cases compares <;> exact readable
  · exact relation_membership side (tight_chars set) (set_chars readable)

end Relations

/-! ## The characters of lines -/

def isLineChar (character : Char) : Bool :=
  isSideChar character || ['<', '>', '=', '(', ')'].contains character

theorem isLineChar_of_isSideChar (character : Char) (side : isSideChar character = true) :
    isLineChar character = true := by
  unfold isLineChar
  rw [side]
  rfl

theorem isLineChar_of_isFactorChar {character : Char} (factor : isFactorChar character = true) :
    isLineChar character = true :=
  isLineChar_of_isSideChar character
    (isSideChar_of_isExprChar character (isExprChar_of_isFactorChar character factor))

theorem isLineChar_write (value : Float) :
    ∀ character ∈ NumberLayout.plain.write value, isLineChar character = true :=
  fun character member => isLineChar_of_isFactorChar
    (isFactorChar_of_isNumeralChar (NumberLayout.isNumeralChar_write _ value character member))

theorem isLineChar_join : ∀ {parts : List (List Char)},
    (∀ part ∈ parts, ∀ character ∈ part, isLineChar character = true) →
    ∀ character ∈ Text.join [',', ' '] parts, isLineChar character = true
  | [], _ => fun _ member => absurd member List.not_mem_nil
  | [part], chars => chars part List.mem_cons_self
  | part :: next :: others, chars => by
    obtain ⟨here, rest⟩ := List.forall_mem_cons.mp chars
    rw [Text.join, List.forall_mem_append, List.forall_mem_append]
    · exact ⟨⟨here, by decide⟩, isLineChar_join rest⟩
    · exact List.cons_ne_nil _ _

theorem isLineChar_set (set : ConstraintSet Float) :
    ∀ character ∈ set.chars, isLineChar character = true := by
  unfold ConstraintSet.chars
  rw [List.forall_mem_append, List.forall_mem_cons, List.forall_mem_append]
  refine ⟨fun character member => ?_, by decide, isLineChar_join fun part inside character member =>
    ?_, by decide⟩
  · exact isLineChar_of_isFactorChar
      (isFactorChar_of_isNameChar (set.isNameChar_name character member))
  · exact isLineChar_of_isFactorChar (isFactorChar_of_isNumeralChar
      (set.isNumeralChar_parameters part inside character member))

/-- A written relation is tight and consists of characters of lines. -/
structure Written (line : List Char) : Prop where
  filled : line ≠ []
  tight : Text.Tight line
  chars : ∀ character ∈ line, isLineChar character = true

theorem written_related {left operator right : List Char} (side : Side isSideChar left)
    (operatorChars : ∀ character ∈ operator, isLineChar character = true) (tight : Text.Tight right)
    (filled : right ≠ []) (chars : ∀ character ∈ right, isLineChar character = true) :
    Written (related left operator right) where
  filled := List.append_ne_nil_of_left_ne_nil side.filled _
  tight := by
    have parts := side.tight.append tight (' ' :: (operator ++ [' '])) side.filled filled
    rw [List.cons_append, List.append_assoc, List.singleton_append] at parts
    exact parts
  chars := by
    unfold related
    rw [List.forall_mem_append, List.forall_mem_cons, List.forall_mem_append, List.forall_mem_cons]
    exact ⟨fun character member => isLineChar_of_isSideChar character (side.chars character member),
      rfl, operatorChars, rfl, chars⟩

theorem written_relationChars {left : List Char} (side : Side isSideChar left)
    {set : ConstraintSet Float} (readable : set.Readable) : Written (relationChars left set) := by
  have compared : ∀ {operator bound}, comparison? set = some (operator, bound) →
      (∀ character ∈ operator, isLineChar character = true) ∧ bound.isNaN = false := by
    intro operator bound compares
    cases set <;> cases compares <;> exact ⟨by decide, readable⟩
  unfold relationChars
  split
  · rename_i operator bound compares
    obtain ⟨operatorChars, defined⟩ := compared compares
    have token := token_write defined
    exact written_related side operatorChars token.tight token.filled (isLineChar_write bound)
  · exact written_related side (by decide) (tight_chars set)
      (List.append_ne_nil_of_right_ne_nil _ (List.cons_ne_nil _ _)) (isLineChar_set set)

end Model

end ConicModel
