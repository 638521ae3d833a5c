import ConicModel.Proofs.Expr.Sum
import ConicModel.Proofs.Model.Label

/-!
Contract: expressions read back from their written form.

Owns:
- the terms and the constant of an expression as one list of items, which is
  what is written and what is read;
- the step lemma for one item and the run lemma for a whole expression;
- the shape of written expressions, on which the reading of lines relies.

Does not own: lines.

An expression is read under the places of its variables.  Its coefficients come
back bit for bit.  Its constant comes back as zero plus itself, which differs
from it only for the negative zero.
-/

namespace ConicModel

namespace Model

/-! ## Items -/

inductive Item where
  | linear (id : VariableId) (value : Float)
  | quadratic (pair : VariablePair) (value : Float)
  | constant (value : Float)

namespace Item

def value : Item → Float
  | linear _ value => value
  | quadratic _ value => value
  | constant value => value

def vars : Item → List VariableId
  | linear id _ => [id]
  | quadratic pair _ => [pair.1, pair.2]
  | constant _ => []

def piece (model : Model Float) (item : Item) : Piece :=
  ⟨item.value, item.vars.map model.labelChars⟩

/-- What an item contributes to an expression over the places of variables. -/
def addTo (place : VariableId → VariableId) (sum : Expr Float) : Item → Expr Float
  | linear id value => { sum with linear := sum.linear ++ [(place id, value)] }
  | quadratic pair value =>
    { sum with quadratic := sum.quadratic ++ [((place pair.1, place pair.2), value)] }
  | constant value => { sum with constant := sum.constant + value }

structure Good (model : Model Float) (item : Item) : Prop where
  live : ∀ id ∈ item.vars, id ∈ model.vars.ids
  finite : item.value.isFinite = true

end Item

def termItems (expr : Expr Float) : List Item :=
  (expr.linear.map fun term => .linear term.1 term.2) ++
    expr.quadratic.map fun term => .quadratic term.1 term.2

def items (expr : Expr Float) : List Item :=
  if expr.constant != 0 || (termItems expr).isEmpty then termItems expr ++ [.constant expr.constant]
  else termItems expr

theorem pieces_eq (model : Model Float) (expr : Expr Float) :
    model.pieces expr = (items expr).map (Item.piece model) := by
  have terms : model.termPieces expr = (termItems expr).map (Item.piece model) := by
    unfold termPieces termItems
    rw [List.map_append, List.map_map, List.map_map]
    rfl
  unfold pieces items
  rw [terms]
  dsimp only
  rw [List.isEmpty_map]
  split
  · rw [List.map_append]
    rfl
  · rfl

theorem items_ne_nil (expr : Expr Float) : items expr ≠ [] := by
  unfold items
  split
  · exact List.append_ne_nil_of_right_ne_nil _ (List.cons_ne_nil _ _)
  · rename_i unwritten
    intro none
    rw [none] at unwritten
    exact unwritten (by rw [List.isEmpty_nil, Bool.or_true])

/-- The expression under other names, as it is read: the constant is added to
zero. -/
def reread (place : VariableId → VariableId) (expr : Expr Float) : Expr Float :=
  { expr.rename place with constant := 0 + expr.constant }

theorem foldl_termItems (place : VariableId → VariableId) (expr sum : Expr Float) :
    (termItems expr).foldl (Item.addTo place) sum =
      ⟨sum.constant, sum.linear ++ (expr.rename place).linear,
        sum.quadratic ++ (expr.rename place).quadratic⟩ := by
  have linear : ∀ (terms : Terms VariableId Float) (sum : Expr Float),
      (terms.map fun term => Item.linear term.1 term.2).foldl (Item.addTo place) sum =
        { sum with linear := sum.linear ++ terms.map fun term => (place term.1, term.2) } := by
    intro terms
    induction terms with
    | nil => exact fun sum => by rw [List.map_nil, List.map_nil, List.append_nil]; rfl
    | cons term terms inductionHypothesis =>
      intro sum
      rw [List.map_cons, List.foldl_cons, inductionHypothesis]
      simp only [Item.addTo, List.append_assoc, List.map_cons, List.singleton_append]
  have quadratic : ∀ (terms : Terms VariablePair Float) (sum : Expr Float),
      (terms.map fun term => Item.quadratic term.1 term.2).foldl (Item.addTo place) sum =
        { sum with quadratic := sum.quadratic ++
            terms.map fun term => ((place term.1.1, place term.1.2), term.2) } := by
    intro terms
    induction terms with
    | nil => exact fun sum => by rw [List.map_nil, List.map_nil, List.append_nil]; rfl
    | cons term terms inductionHypothesis =>
      intro sum
      rw [List.map_cons, List.foldl_cons, inductionHypothesis]
      simp only [Item.addTo, List.append_assoc, List.map_cons, List.singleton_append]
  unfold termItems Expr.rename
  rw [List.foldl_append, linear, quadratic]

/-- The items of an expression, read from the left, give the expression back. -/
theorem foldl_items (place : VariableId → VariableId) (expr : Expr Float) :
    (items expr).foldl (Item.addTo place) .zero = reread place expr := by
  unfold items reread
  split
  · rw [List.foldl_append, foldl_termItems]
    rfl
  · rename_i unwritten
    have zero : (expr.constant == 0) = true := by
      rw [Bool.or_eq_true, not_or, bne, Bool.not_eq_true', Bool.not_eq_false] at unwritten
      exact unwritten.1
    rw [foldl_termItems, Binary64.zero_add_of_beq _ zero]
    rfl

theorem good_items {model : Model Float} {expr : Expr Float}
    (stored : expr.Stored model.vars.ids) (finite : expr.checkFinite = .ok ()) :
    ∀ item ∈ items expr, item.Good model := by
  obtain ⟨constant, linear, quadratic⟩ := Expr.checkFinite_eq_ok.mp finite
  have terms : ∀ item ∈ termItems expr, item.Good model := by
    unfold termItems
    rw [List.forall_mem_append, List.forall_mem_map, List.forall_mem_map]
    refine ⟨fun term member => ⟨?_, linear term member⟩,
      fun term member => ⟨?_, quadratic term member⟩⟩
    · intro id mentioned
      rw [List.mem_singleton.mp mentioned]
      exact stored.live _ (Expr.mem_vars.mpr (.inl ⟨term, member, rfl⟩))
    · intro id mentioned
      refine stored.live _ (Expr.mem_vars.mpr (.inr ⟨term, member, ?_⟩))
      rcases List.mem_cons.mp mentioned with left | right
      · exact .inl left
      · exact .inr (List.mem_singleton.mp right)
  unfold items
  split
  · rw [List.forall_mem_append]
    refine ⟨terms, fun item member => ?_⟩
    rw [List.mem_singleton.mp member]
    exact ⟨fun _ impossible => absurd impossible List.not_mem_nil, constant⟩
  · exact terms

/-! ## The written form of an item -/

section Written

variable {model : Model Float} (wellFormed : model.vars.WellFormed)

include wellFormed in
theorem isFactorChar_magnitude (value : Float) (ids : List VariableId) :
    ∀ character ∈ Piece.magnitude value (ids.map model.labelChars),
      isFactorChar character = true := by
  unfold Piece.magnitude
  rw [List.forall_mem_append]
  constructor
  · exact fun character member =>
      isFactorChar_of_isNumeralChar (NumberLayout.isNumeralChar_write _ value character member)
  · intro character member
    obtain ⟨label, labelMember, inside⟩ := List.mem_flatMap.mp member
    obtain ⟨id, _, rfl⟩ := List.mem_map.mp labelMember
    rcases List.mem_cons.mp inside with rfl | letter
    · rfl
    · exact isFactorChar_of_isNameChar (isNameChar_labelChars wellFormed id character letter)

theorem magnitude_head {value : Float} (finite : value.isFinite = true)
    (labels : List (List Char)) :
    ∃ first others, Piece.magnitude value labels = first :: others ∧
      (first = '-' ∨ first.isDigit = true) := by
  obtain ⟨first, others, written, numeral⟩ := NumberLayout.plain.write_head finite
  refine ⟨first, others ++ labels.flatMap fun label => '*' :: label, ?_, numeral⟩
  unfold Piece.magnitude
  rw [written]
  rfl

include wellFormed in
theorem token_magnitude {value : Float} (finite : value.isFinite = true) (ids : List VariableId) :
    Text.Token (Piece.magnitude value (ids.map model.labelChars)) where
  filled := by
    obtain ⟨first, others, written, _⟩ := magnitude_head finite (ids.map model.labelChars)
    rw [written]
    exact List.cons_ne_nil _ _
  solid character member := not_isBlank_of_isFactorChar
    (isFactorChar_magnitude wellFormed value ids character member)

include wellFormed in
/-- The factors of a written item come apart at the signs between them. -/
theorem splitOn_magnitude (value : Float) (ids : List VariableId) :
    (Piece.magnitude value (ids.map model.labelChars)).splitOn '*' =
      NumberLayout.plain.write value :: ids.map model.labelChars := by
  refine Text.splitOn_led ?_ ?_
  · exact Text.not_mem_of_class (NumberLayout.isNumeralChar_write _ value) rfl
  · rw [List.forall_mem_map]
    exact fun id _ => Text.not_mem_of_class (isNameChar_labelChars wellFormed id) rfl

theorem number_write {value : Float} (defined : value.isNaN = false) :
    Reader.number (NumberLayout.plain.write value) = .ok value := by
  unfold Reader.number
  rw [readNumber_write NumberLayout.plain value defined]

theorem known_label (wellFormed : model.vars.WellFormed) {id : VariableId}
    (live : id ∈ model.vars.ids) :
    Reader.known model.table (model.labelChars id) = .ok (model.vars.place id) := by
  unfold Reader.known
  rw [lookup_label wellFormed live]

include wellFormed in
/-- Step lemma: a written item under a sign adds the item. -/
theorem addTerm_item {item : Item} (good : item.Good model) {sign written : Float}
    (finite : written.isFinite = true) (product : sign * written = item.value)
    (sum : Expr Float) :
    Reader.addTerm model.table sign sum
        (Piece.magnitude written (item.vars.map model.labelChars)) =
      .ok (item.addTo model.vars.place sum) := by
  have number := number_write (Binary64.isNaN_of_isFinite finite)
  unfold Reader.addTerm
  rw [splitOn_magnitude wellFormed]
  cases item with
  | linear id value =>
    have known := known_label wellFormed (good.live id List.mem_cons_self)
    simp only [Item.vars, List.map_cons, List.map_nil, number, known]
    show Except.ok _ = _
    rw [product]
    rfl
  | quadratic pair value =>
    have first := known_label wellFormed (good.live pair.1 List.mem_cons_self)
    have second := known_label wellFormed
      (good.live pair.2 (List.mem_cons_of_mem _ List.mem_cons_self))
    simp only [Item.vars, List.map_cons, List.map_nil, number, first, second]
    show Except.ok _ = _
    rw [product]
    rfl
  | constant value =>
    obtain ⟨head, others, spelled, numeral⟩ := NumberLayout.plain.write_head finite
    have unknown : Reader.lookup model.table (NumberLayout.plain.write written) = none := by
      rw [spelled]
      exact lookup_foreign wellFormed others fun starts => starts.not_numeral numeral
    simp only [Item.vars, List.map_nil, number, unknown]
    show Except.ok _ = _
    rw [product]
    rfl

end Written

/-! ## The written form of an expression -/

namespace Piece

def operator (piece : Piece) : List Char :=
  if Binary64.isNegative piece.value then ['-'] else ['+']

def size (piece : Piece) : Float :=
  if Binary64.isNegative piece.value then -piece.value else piece.value

def unsigned (piece : Piece) : List Char :=
  magnitude piece.size piece.labels

theorem later_eq (piece : Piece) :
    piece.later = ' ' :: (piece.operator ++ ' ' :: piece.unsigned) := by
  unfold later operator unsigned size
  split <;> rfl

theorem operator_cases (piece : Piece) : piece.operator = ['-'] ∨ piece.operator = ['+'] := by
  unfold operator
  split
  · exact .inl rfl
  · exact .inr rfl

theorem token_operator (piece : Piece) : Text.Token piece.operator := by
  rcases piece.operator_cases with minus | plus
  · rw [minus]
    exact ⟨by decide, by decide⟩
  · rw [plus]
    exact ⟨by decide, by decide⟩

theorem isFinite_size {piece : Piece} (finite : piece.value.isFinite = true) :
    piece.size.isFinite = true := by
  unfold size
  split
  · exact Binary64.isFinite_neg finite
  · exact finite

/-- The words of pieces after a first token alternate between signs and
magnitudes. -/
theorem words_later : ∀ {pieces : List Piece} {token : List Char}, Text.Token token →
    (∀ piece ∈ pieces, Text.Token piece.unsigned) →
    Text.words (token ++ pieces.flatMap later) =
      token :: pieces.flatMap fun piece => [piece.operator, piece.unsigned]
  | [], token, first, _ => by
    rw [List.flatMap_nil, List.append_nil, first.words_eq]
    rfl
  | piece :: pieces, token, first, tokens => by
    obtain ⟨here, others⟩ := List.forall_mem_cons.mp tokens
    rw [List.flatMap_cons, later_eq, List.cons_append, List.append_assoc, List.cons_append,
      first.words_append, piece.token_operator.words_append, words_later here others]
    rfl

end Piece

section Expression

variable {model : Model Float}

/-- The written form of an expression begins with its first item. -/
theorem exprChars_eq (model : Model Float) (expr : Expr Float) :
    ∃ first others, items expr = first :: others ∧
      model.exprChars expr = (first.piece model).first ++
        (others.map (Item.piece model)).flatMap Piece.later := by
  unfold exprChars
  rw [pieces_eq]
  cases listed : items expr with
  | nil => exact absurd listed (items_ne_nil expr)
  | cons first others => exact ⟨first, others, rfl, rfl⟩

variable (wellFormed : model.vars.WellFormed)
include wellFormed

theorem token_unsigned {item : Item} (good : item.Good model) :
    Text.Token (item.piece model).unsigned := by
  have finite : (item.piece model).size.isFinite = true := Piece.isFinite_size good.finite
  exact token_magnitude wellFormed finite item.vars

/-- The sign of a later piece and what follows it mean the item. -/
theorem addTerm_unsigned {item : Item} (good : item.Good model) :
    ∃ sign, Reader.signOf (item.piece model).operator = .ok sign ∧
      ∀ sum, Reader.addTerm model.table sign sum (item.piece model).unsigned =
        .ok (item.addTo model.vars.place sum) := by
  have finite : (item.piece model).size.isFinite = true := Piece.isFinite_size good.finite
  cases negative : Binary64.isNegative item.value with
  | true =>
    have operator : (item.piece model).operator = ['-'] := if_pos negative
    have size : (item.piece model).size = -item.value := if_pos negative
    have product : -1 * (item.piece model).size = item.value := by
      rw [size, Binary64.neg_one_mul_neg]
    refine ⟨-1, ?_, addTerm_item wellFormed good finite product⟩
    rw [operator]
    rfl
  | false =>
    have notNegative : ¬ Binary64.isNegative item.value = true := Bool.not_eq_true _ ▸ negative
    have operator : (item.piece model).operator = ['+'] := if_neg notNegative
    have size : (item.piece model).size = item.value := if_neg notNegative
    have product : 1 * (item.piece model).size = item.value := by
      rw [size, Binary64.one_mul_float]
    refine ⟨1, ?_, addTerm_item wellFormed good finite product⟩
    rw [operator]
    rfl

/-- Run lemma: what follows a first term adds the items one by one. -/
theorem addTerms_items (text : List Char) : ∀ {others : List Item},
    (∀ item ∈ others, item.Good model) → ∀ {sign : Float} {sum next : Expr Float}
      {term : List Char}, Reader.addTerm model.table sign sum term = .ok next →
    Reader.addTerms model.table text sign sum
        (term :: (others.map (Item.piece model)).flatMap fun piece =>
          [piece.operator, piece.unsigned]) =
      .ok (others.foldl (Item.addTo model.vars.place) next)
  | [], _, _, _, _, _, added => added
  | item :: others, good, sign, sum, next, term, added => by
    obtain ⟨here, later⟩ := List.forall_mem_cons.mp good
    obtain ⟨nextSign, signed, step⟩ := addTerm_unsigned wellFormed here
    have rest := addTerms_items text later (step next)
    show Reader.addTerms model.table text sign sum
      (term :: (item.piece model).operator :: (item.piece model).unsigned :: _) = _
    rw [Reader.addTerms, added]
    show (Reader.signOf _ >>= fun sign => _) = _
    rw [signed]
    exact rest

/-- A stored finite expression reads back, under the places of its variables. -/
theorem expression_exprChars {expr : Expr Float} (stored : expr.Stored model.vars.ids)
    (finite : expr.checkFinite = .ok ()) :
    Reader.expression model.table (model.exprChars expr) =
      .ok (reread model.vars.place expr) := by
  obtain ⟨first, others, listed, written⟩ := exprChars_eq model expr
  have good := good_items stored finite
  rw [listed] at good
  obtain ⟨here, later⟩ := List.forall_mem_cons.mp good
  have tokens : ∀ piece ∈ others.map (Item.piece model), Text.Token piece.unsigned :=
    List.forall_mem_map.mpr fun item member => token_unsigned wellFormed (later item member)
  have words := Piece.words_later (token_magnitude wellFormed here.finite first.vars) tokens
  have begun := addTerm_item wellFormed here here.finite (Binary64.one_mul_float _) .zero
  have head : (first.piece model).first =
      Piece.magnitude first.value (first.vars.map model.labelChars) := rfl
  unfold Reader.expression
  rw [written, head, words, addTerms_items wellFormed _ later begun, ← foldl_items, listed,
    List.foldl_cons]

end Expression

/-! ## The shape of a side -/

/-- A left side of a line, with characters of the given class: tight, and such that
the word `in` is not found in it. -/
structure Side (inClass : Char → Bool) (text : List Char) : Prop where
  filled : text ≠ []
  tight : Text.Tight text
  guarded : Text.Guarded text
  chars : ∀ character ∈ text, inClass character = true

namespace Side

variable {inClass : Char → Bool} {left right middle : List Char}

theorem mono {wider : Char → Bool} (side : Side inClass left)
    (widen : ∀ character, inClass character = true → wider character = true) : Side wider left :=
  { side with chars := fun character member => widen character (side.chars character member) }

theorem append (leftSide : Side inClass left) (rightSide : Side inClass right)
    (filled : middle ≠ []) (guarded : Text.Guarded middle)
    (chars : ∀ character ∈ middle, inClass character = true)
    (leftSeam : ∀ next ∈ middle.head?, next ≠ 'i') (rightSeam : ∀ next ∈ right.head?, next ≠ 'i') :
    Side inClass (left ++ (middle ++ right)) where
  filled := List.append_ne_nil_of_left_ne_nil leftSide.filled _
  tight := leftSide.tight.append rightSide.tight middle leftSide.filled rightSide.filled
  guarded := by
    refine leftSide.guarded.append (guarded.append rightSide.guarded rightSeam) ?_
    rw [List.head?_append_of_ne_nil _ filled]
    exact leftSeam
  chars := by
    rw [List.forall_mem_append, List.forall_mem_append]
    exact ⟨leftSide.chars, chars, rightSide.chars⟩

theorem of_token (token : Text.Token left) (chars : ∀ character ∈ left, inClass character = true)
    (outside : inClass ' ' = false) : Side inClass left where
  filled := token.filled
  tight := token.tight
  guarded := Text.guarded_of_not_mem (Text.not_mem_of_class chars outside)
  chars := chars

end Side

def StartsNumeral (text : List Char) : Prop :=
  ∃ first others, text = first :: others ∧ (first = '-' ∨ first.isDigit = true)

theorem StartsNumeral.head_ne {text : List Char} (starts : StartsNumeral text) {other : Char}
    (notNumeral : ¬ (other = '-' ∨ other.isDigit = true)) : ∀ next ∈ text.head?, next ≠ other := by
  obtain ⟨first, others, rfl, numeral⟩ := starts
  rintro next ⟨⟩ rfl
  exact notNumeral numeral

theorem StartsNumeral.append {text : List Char} (starts : StartsNumeral text) (rest : List Char) :
    StartsNumeral (text ++ rest) := by
  obtain ⟨first, others, rfl, numeral⟩ := starts
  exact ⟨first, others ++ rest, rfl, numeral⟩

def isExprChar (character : Char) : Bool :=
  isFactorChar character || character == ' '

def isSideChar (character : Char) : Bool :=
  isExprChar character || ['[', ']', ','].contains character

theorem isExprChar_of_isFactorChar (character : Char) (factor : isFactorChar character = true) :
    isExprChar character = true := by
  unfold isExprChar
  rw [factor]
  rfl

theorem isSideChar_of_isExprChar (character : Char) (expr : isExprChar character = true) :
    isSideChar character = true := by
  unfold isSideChar
  rw [expr]
  rfl

section Shapes

variable {model : Model Float} (wellFormed : model.vars.WellFormed)

include wellFormed in
theorem side_label (id : VariableId) : Side isSideChar (model.labelChars id) := by
  have chars : ∀ character ∈ model.labelChars id, isFactorChar character = true :=
    fun character member =>
      isFactorChar_of_isNameChar (isNameChar_labelChars wellFormed id character member)
  exact ((Side.of_token (token_labelChars wellFormed id) chars rfl).mono
    isExprChar_of_isFactorChar).mono isSideChar_of_isExprChar

include wellFormed in
theorem side_magnitude {value : Float} (finite : value.isFinite = true) (ids : List VariableId) :
    Side isExprChar (Piece.magnitude value (ids.map model.labelChars)) :=
  (Side.of_token (token_magnitude wellFormed finite ids)
    (isFactorChar_magnitude wellFormed value ids) rfl).mono isExprChar_of_isFactorChar

theorem startsNumeral_unsigned {item : Item} (good : item.Good model) :
    StartsNumeral (item.piece model).unsigned := by
  have finite : (item.piece model).size.isFinite = true := Piece.isFinite_size good.finite
  exact magnitude_head finite _

include wellFormed in
/-- Later pieces keep the shape of what stands before them. -/
theorem side_later : ∀ {others : List Item}, (∀ item ∈ others, item.Good model) →
    ∀ {left : List Char}, Side isExprChar left →
      Side isExprChar (left ++ (others.map (Item.piece model)).flatMap Piece.later)
  | [], _, left, side => by
    rw [List.map_nil, List.flatMap_nil, List.append_nil]
    exact side
  | item :: others, good, left, side => by
    obtain ⟨here, later⟩ := List.forall_mem_cons.mp good
    have finite : (item.piece model).size.isFinite = true := Piece.isFinite_size here.finite
    have unsigned : Side isExprChar (item.piece model).unsigned :=
      side_magnitude wellFormed finite item.vars
    have seam := (startsNumeral_unsigned here).head_ne (by decide : ¬ ('i' = '-' ∨ _))
    have grown : Side isExprChar (left ++ (' ' :: ((item.piece model).operator ++ [' ']) ++
        (item.piece model).unsigned)) := by
      rcases (item.piece model).operator_cases with minus | plus
      · rw [minus]
        exact side.append unsigned (by decide) (by simp [Text.Guarded]) (by decide) (by decide) seam
      · rw [plus]
        exact side.append unsigned (by decide) (by simp [Text.Guarded]) (by decide) (by decide) seam
    have rest := side_later later grown
    rw [List.map_cons, List.flatMap_cons, Piece.later_eq]
    simpa only [List.append_assoc, List.cons_append, List.nil_append, List.singleton_append]
      using rest

include wellFormed in
/-- A written expression is a side that begins like a number. -/
theorem side_exprChars {expr : Expr Float} (stored : expr.Stored model.vars.ids)
    (finite : expr.checkFinite = .ok ()) :
    Side isExprChar (model.exprChars expr) ∧ StartsNumeral (model.exprChars expr) := by
  obtain ⟨first, others, listed, written⟩ := exprChars_eq model expr
  have good := good_items stored finite
  rw [listed] at good
  obtain ⟨here, later⟩ := List.forall_mem_cons.mp good
  rw [written]
  exact ⟨side_later wellFormed later (side_magnitude wellFormed here.finite first.vars),
    StartsNumeral.append (magnitude_head here.finite _) _⟩

end Shapes

end Model

end ConicModel
