import ConicModel.Proofs.Decimal.Spelling
import ConicModel.Proofs.Model.Labelling

/-!
Contract: the grammar of expressions, and the fact that the reader follows it.

Owns:
- the words that stand for terms, and what they contribute;
- the complaint about a word that stands for no term;
- expressions as sequences of words in which terms and operators alternate, and
  the sum that they describe;
- the first fault of a sequence that is no expression.

Does not own: which labels are declared, or which texts are numbers.

The grammar speaks of words by their positions, counted from zero, and knows
nothing of the order in which the reader goes through them.  Terms stand at the
even positions and operators at the odd ones.
-/

namespace ConicModel.Model

/-! ## Terms -/

/-- What a term contributes to a sum, before its sign counts. -/
inductive Contribution where
  | number (value : Float)
  | multiple (value : Float) (id : VariableId)
  | product (value : Float) (left right : VariableId)

namespace Contribution

def constant? (sign : Float) : Contribution → Option Float
  | number value => some (sign * value)
  | _ => none

def linear? (sign : Float) : Contribution → Option (VariableId × Float)
  | multiple value id => some (id, sign * value)
  | _ => none

def quadratic? (sign : Float) : Contribution → Option (VariablePair × Float)
  | product value left right => some ((left, right), sign * value)
  | _ => none

def addTo (sign : Float) (contribution : Contribution) (sum : Expr Float) : Expr Float where
  constant := (contribution.constant? sign).elim sum.constant (sum.constant + ·)
  linear := sum.linear ++ (contribution.linear? sign).toList
  quadratic := sum.quadratic ++ (contribution.quadratic? sign).toList

end Contribution

/-- The sum of contributions under their signs: linear and quadratic parts in the given
order, and the numbers added up from the left, starting with zero. -/
def total (signed : List (Float × Contribution)) : Expr Float where
  constant := (signed.filterMap fun term => term.2.constant? term.1).foldl (· + ·) 0
  linear := signed.filterMap fun term => term.2.linear? term.1
  quadratic := signed.filterMap fun term => term.2.quadratic? term.1

section Grammar

variable (labels : List (List Char × VariableId))

/-- What a word stands for.  A label counts once, and wins over a number of the same
spelling. -/
inductive Denotes : List Char → Contribution → Prop where
  | number {word : List Char} {value : Float} (unknown : Reader.lookup labels word = none)
      (read : readNumber word = some value) : Denotes word (.number value)
  | label {word : List Char} {id : VariableId} (known : Reader.lookup labels word = some id) :
      Denotes word (.multiple 1 id)
  | multiple {factor label : List Char} {value : Float} {id : VariableId}
      (read : readNumber factor = some value) (known : Reader.lookup labels label = some id) :
      Denotes (factor ++ '*' :: label) (.multiple value id)
  | product {factor left right : List Char} {value : Float} {first second : VariableId}
      (read : readNumber factor = some value) (knownLeft : Reader.lookup labels left = some first)
      (knownRight : Reader.lookup labels right = some second) :
      Denotes (factor ++ '*' :: (left ++ '*' :: right)) (.product value first second)

/-- What is wrong with a word that stands for no term: the first of its factors that does
not fit, or their number. -/
inductive Misfits : List Char → ParseCause → Prop where
  | single {word : List Char} (whole : '*' ∉ word) (unknown : Reader.lookup labels word = none)
      (unread : readNumber word = none) : Misfits word (.malformed (.numberExpected word))
  | coefficient {factor label : List Char} (here : '*' ∉ factor) (last : '*' ∉ label)
      (unread : readNumber factor = none) :
      Misfits (factor ++ '*' :: label) (.malformed (.numberExpected factor))
  | label {factor label : List Char} {value : Float} (read : readNumber factor = some value)
      (last : '*' ∉ label) (unknown : Reader.lookup labels label = none) :
      Misfits (factor ++ '*' :: label) (.unknownVariable label)
  | productCoefficient {factor left right : List Char} (here : '*' ∉ factor) (next : '*' ∉ left)
      (last : '*' ∉ right) (unread : readNumber factor = none) :
      Misfits (factor ++ '*' :: (left ++ '*' :: right)) (.malformed (.numberExpected factor))
  | left {factor left right : List Char} {value : Float} (read : readNumber factor = some value)
      (next : '*' ∉ left) (last : '*' ∉ right) (unknown : Reader.lookup labels left = none) :
      Misfits (factor ++ '*' :: (left ++ '*' :: right)) (.unknownVariable left)
  | right {factor left right : List Char} {value : Float} {id : VariableId}
      (read : readNumber factor = some value) (known : Reader.lookup labels left = some id)
      (last : '*' ∉ right) (unknown : Reader.lookup labels right = none) :
      Misfits (factor ++ '*' :: (left ++ '*' :: right)) (.unknownVariable right)
  | crowded {first second third rest : List Char} (here : '*' ∉ first) (next : '*' ∉ second)
      (later : '*' ∉ third) :
      Misfits (first ++ '*' :: (second ++ '*' :: (third ++ '*' :: rest)))
        (.malformed (.tooManyFactors
          (first ++ '*' :: (second ++ '*' :: (third ++ '*' :: rest)))))

/-! ## Sequences of words -/

def IsOperator (word : List Char) : Prop :=
  word = ['+'] ∨ word = ['-']

/-- The sign of the term at a position: that of the operator right before it, and the
given one for the first term. -/
def signAt (first : Float) (words : List (List Char)) : Nat → Float
  | 0 => first
  | position + 1 => if words[position]? = some ['-'] then -1 else 1

/-- A word is of the sort that its position asks for. -/
def Fits (position : Nat) (word : List Char) : Prop :=
  if position % 2 = 0 then ∃ contribution, Denotes labels word contribution else IsOperator word

/-- The complaint about a word that is not of the sort that its position asks for. -/
def Offends (position : Nat) (word : List Char) (cause : ParseCause) : Prop :=
  if position % 2 = 0 then Misfits labels word cause
  else ¬ IsOperator word ∧ cause = .malformed (.signExpected word)

/-- Words that are an expression, with the contributions of its terms under their signs. -/
structure Spells (first : Float) (words : List (List Char)) (signed : List (Float × Contribution)) :
    Prop where
  length : words.length + 1 = 2 * signed.length
  terms : ∀ index sign contribution, signed[index]? = some (sign, contribution) →
    sign = signAt first words (2 * index) ∧
      ∃ word, words[2 * index]? = some word ∧ Denotes labels word contribution
  operators : ∀ index word, words[2 * index + 1]? = some word → IsOperator word

def FitUpTo (words : List (List Char)) (count : Nat) : Prop :=
  ∀ position word, position < count → words[position]? = some word → Fits labels position word

/-- The first thing that is wrong with words that are no expression: a word that does not fit
while all before it do, or the end where a term is expected. -/
def FirstFault (text : List Char) (words : List (List Char)) (cause : ParseCause) : Prop :=
  (∃ position word, words[position]? = some word ∧ FitUpTo labels words position ∧
    Offends labels position word cause) ∨
  (words.length % 2 = 0 ∧ FitUpTo labels words words.length ∧
    cause = .malformed (.expressionIncomplete text))

end Grammar

/-! ## Step lemmas: one term -/

theorem no_star_of_readNumber {word : List Char} {value : Float}
    (read : readNumber word = some value) : '*' ∉ word :=
  Text.not_mem_of_class (isSpellingChar_of_readNumber read) rfl

theorem splitOn_two {first second : List Char} (here : '*' ∉ first) (last : '*' ∉ second) :
    (first ++ '*' :: second).splitOn '*' = [first, second] := by
  rw [List.splitOn_append_cons_self_of_not_mem here, List.splitOn_eq_singleton last]

theorem splitOn_three {first second third : List Char} (here : '*' ∉ first) (next : '*' ∉ second)
    (last : '*' ∉ third) :
    (first ++ '*' :: (second ++ '*' :: third)).splitOn '*' = [first, second, third] := by
  rw [List.splitOn_append_cons_self_of_not_mem here, splitOn_two next last]

section Term

variable {reader : Reader} {word : List Char} {cause : ParseCause}

theorem number_of_read {value : Float} (read : readNumber word = some value) :
    Reader.number word = .ok value := by
  simp [Reader.number, read]

theorem number_of_unread (unread : readNumber word = none) :
    Reader.number word = .error (.malformed (.numberExpected word)) := by
  simp [Reader.number, unread]

theorem known_of_lookup {labels : List (List Char × VariableId)} {id : VariableId}
    (known : Reader.lookup labels word = some id) : Reader.known labels word = .ok id := by
  simp [Reader.known, known]

theorem known_of_unknown {labels : List (List Char × VariableId)}
    (unknown : Reader.lookup labels word = none) :
    Reader.known labels word = .error (.unknownVariable word) := by
  simp [Reader.known, unknown]

theorem sign_mul_one {sign : Float} (isSign : sign = 1 ∨ sign = -1) : sign * 1 = sign := by
  rcases isSign with rfl | rfl <;> decide

/-- A word that stands for a term is read as that term. -/
theorem addTerm_of_denotes (labelled : reader.Labelled) {contribution : Contribution}
    (denotes : Denotes reader.labels word contribution) {sign : Float}
    (isSign : sign = 1 ∨ sign = -1) (sum : Expr Float) :
    Reader.addTerm reader.labels sign sum word = .ok (contribution.addTo sign sum) := by
  have free : ∀ {label id}, Reader.lookup reader.labels label = some id → '*' ∉ label :=
    fun known => (labelled.spelled_of_lookup known).not_mem rfl
  unfold Reader.addTerm
  cases denotes with
  | number unknown read =>
    rw [List.splitOn_eq_singleton (no_star_of_readNumber read)]
    simp [unknown, number_of_read read, Contribution.addTo, Contribution.constant?,
      Contribution.linear?, Contribution.quadratic?, bind, Except.bind, pure, Except.pure]
  | label known =>
    rw [List.splitOn_eq_singleton (free known)]
    simp [known, sign_mul_one isSign, Contribution.addTo, Contribution.constant?,
      Contribution.linear?, Contribution.quadratic?]
  | multiple read known =>
    rw [splitOn_two (no_star_of_readNumber read) (free known)]
    simp [number_of_read read, known_of_lookup known, Contribution.addTo, Contribution.constant?,
      Contribution.linear?, Contribution.quadratic?, bind, Except.bind, pure, Except.pure]
  | product read knownLeft knownRight =>
    rw [splitOn_three (no_star_of_readNumber read) (free knownLeft) (free knownRight)]
    simp [number_of_read read, known_of_lookup knownLeft, known_of_lookup knownRight,
      Contribution.addTo, Contribution.constant?, Contribution.linear?, Contribution.quadratic?,
      bind, Except.bind, pure, Except.pure]

/-- A word that stands for no term is refused, with what is wrong with it. -/
theorem addTerm_of_misfits (labelled : reader.Labelled) (misfits : Misfits reader.labels word cause)
    (sign : Float) (sum : Expr Float) :
    Reader.addTerm reader.labels sign sum word = .error cause := by
  have free : ∀ {label id}, Reader.lookup reader.labels label = some id → '*' ∉ label :=
    fun known => (labelled.spelled_of_lookup known).not_mem rfl
  unfold Reader.addTerm
  cases misfits with
  | single whole unknown unread =>
    rw [List.splitOn_eq_singleton whole]
    simp [unknown, number_of_unread unread, bind, Except.bind]
  | coefficient here last unread =>
    rw [splitOn_two here last]
    simp [number_of_unread unread, bind, Except.bind]
  | label read last unknown =>
    rw [splitOn_two (no_star_of_readNumber read) last]
    simp [number_of_read read, known_of_unknown unknown, bind, Except.bind]
  | productCoefficient here next last unread =>
    rw [splitOn_three here next last]
    simp [number_of_unread unread, bind, Except.bind]
  | left read next last unknown =>
    rw [splitOn_three (no_star_of_readNumber read) next last]
    simp [number_of_read read, known_of_unknown unknown, bind, Except.bind]
  | right read known last unknown =>
    rw [splitOn_three (no_star_of_readNumber read) (free known) last]
    simp [number_of_read read, known_of_lookup known, known_of_unknown unknown, bind, Except.bind]
  | @crowded first second third rest here next later =>
    rw [List.splitOn_append_cons_self_of_not_mem here,
      List.splitOn_append_cons_self_of_not_mem next,
      List.splitOn_append_cons_self_of_not_mem later]
    cases pieces : rest.splitOn '*' with
    | nil => exact absurd pieces (List.splitOn_ne_nil _ _)
    | cons => rfl

/-- Every word stands for a term or is wrong in one of the ways. -/
theorem denotes_or_misfits (labels : List (List Char × VariableId)) (word : List Char) :
    (∃ contribution, Denotes labels word contribution) ∨ ∃ cause, Misfits labels word cause := by
  have split : ∀ text : List Char, '*' ∉ text ∨ ∃ before after, text = before ++ '*' :: after ∧
      '*' ∉ before := by
    intro text
    by_cases star : '*' ∈ text
    · exact .inr (List.eq_append_cons_of_mem star)
    · exact .inl star
  obtain whole | ⟨factor, others, rfl, here⟩ := split word
  · cases known : Reader.lookup labels word with
    | some id => exact .inl ⟨_, .label known⟩
    | none =>
      cases read : readNumber word with
      | some value => exact .inl ⟨_, .number known read⟩
      | none => exact .inr ⟨_, .single whole known read⟩
  · obtain last | ⟨left, others, rfl, next⟩ := split others
    · cases read : readNumber factor with
      | none => exact .inr ⟨_, .coefficient here last read⟩
      | some value =>
        cases known : Reader.lookup labels others with
        | some id => exact .inl ⟨_, .multiple read known⟩
        | none => exact .inr ⟨_, .label read last known⟩
    · obtain last | ⟨right, others, rfl, later⟩ := split others
      · cases read : readNumber factor with
        | none => exact .inr ⟨_, .productCoefficient here next last read⟩
        | some value =>
          cases knownLeft : Reader.lookup labels left with
          | none => exact .inr ⟨_, .left read next last knownLeft⟩
          | some first =>
            cases knownRight : Reader.lookup labels others with
            | some second => exact .inl ⟨_, .product read knownLeft knownRight⟩
            | none => exact .inr ⟨_, .right read knownLeft last knownRight⟩
      · exact .inr ⟨_, .crowded here next later⟩

end Term

/-! ## Words two by two -/

section Pairs

variable {labels : List (List Char × VariableId)} {term operator : List Char}
  {words : List (List Char)} {text : List Char} {cause : ParseCause} {sign : Float}

def operatorSign (operator : List Char) : Float :=
  if operator = ['-'] then -1 else 1

theorem isSign_operatorSign (operator : List Char) :
    operatorSign operator = 1 ∨ operatorSign operator = -1 := by
  unfold operatorSign
  split
  · exact .inr rfl
  · exact .inl rfl

theorem signOf_of_isOperator (isOperator : IsOperator operator) :
    Reader.signOf operator = .ok (operatorSign operator) := by
  rcases isOperator with rfl | rfl <;> rfl

theorem signOf_of_not_isOperator (other : ¬ IsOperator operator) :
    Reader.signOf operator = .error (.malformed (.signExpected operator)) := by
  obtain ⟨noPlus, noMinus⟩ := not_or.mp other
  simp [Reader.signOf, noPlus, noMinus]

/-- Behind a term and an operator, terms have the signs that they have by themselves. -/
theorem signAt_cons_cons (index : Nat) :
    signAt sign (term :: operator :: words) (2 * (index + 1)) =
      signAt (operatorSign operator) words (2 * index) := by
  cases index with
  | zero => simp [signAt, operatorSign]
  | succ index =>
    have left : 2 * (index + 1 + 1) = 2 * index + 1 + 1 + 1 + 1 := by omega
    have right : 2 * (index + 1) = 2 * index + 1 + 1 := by omega
    simp [left, right, signAt]

theorem spells_singleton {signed : List (Float × Contribution)} :
    Spells labels sign [term] signed ↔
      ∃ contribution, signed = [(sign, contribution)] ∧ Denotes labels term contribution := by
  constructor
  · intro spells
    have length := spells.length
    match signed, length with
    | [(own, contribution)], _ =>
      obtain ⟨rfl, word, found, denotes⟩ := spells.terms 0 own contribution rfl
      cases found
      exact ⟨contribution, rfl, denotes⟩
  · rintro ⟨contribution, rfl, denotes⟩
    refine ⟨rfl, ?_, ?_⟩
    · intro index own other found
      cases index with
      | zero =>
        cases found
        exact ⟨rfl, term, rfl, denotes⟩
      | succ index => simp at found
    · intro index word found
      simp at found

theorem spells_cons_cons {signed : List (Float × Contribution)} :
    Spells labels sign (term :: operator :: words) signed ↔
      ∃ contribution rest, signed = (sign, contribution) :: rest ∧
        Denotes labels term contribution ∧ IsOperator operator ∧
        Spells labels (operatorSign operator) words rest := by
  constructor
  · intro spells
    have length := spells.length
    match signed, length with
    | (own, contribution) :: rest, length =>
      obtain ⟨rfl, word, found, denotes⟩ := spells.terms 0 own contribution rfl
      cases found
      refine ⟨contribution, rest, rfl, denotes, spells.operators 0 operator rfl, ?_, ?_, ?_⟩
      · simp only [List.length_cons] at length
        omega
      · intro index own other found
        obtain ⟨same, word, there, denotes⟩ := spells.terms (index + 1) own other found
        exact ⟨same.trans (signAt_cons_cons index), word, there, denotes⟩
      · intro index word found
        exact spells.operators (index + 1) word found
  · rintro ⟨contribution, rest, rfl, denotes, isOperator, spells⟩
    refine ⟨?_, ?_, ?_⟩
    · have length := spells.length
      simp only [List.length_cons]
      omega
    · intro index own other found
      cases index with
      | zero =>
        cases found
        exact ⟨rfl, term, rfl, denotes⟩
      | succ index =>
        obtain ⟨same, word, there, denotes⟩ := spells.terms index own other found
        exact ⟨same.trans (signAt_cons_cons index).symm, word, there, denotes⟩
    · intro index word found
      cases index with
      | zero =>
        cases found
        exact isOperator
      | succ index => exact spells.operators index word found

theorem not_spells_nil {signed : List (Float × Contribution)} : ¬ Spells labels sign [] signed := by
  intro spells
  have length := spells.length
  simp only [List.length_nil] at length
  omega

theorem fits_add_two (position : Nat) (word : List Char) :
    Fits labels (position + 2) word ↔ Fits labels position word := by
  simp [Fits]

theorem offends_add_two (position : Nat) (word : List Char) :
    Offends labels (position + 2) word cause ↔ Offends labels position word cause := by
  simp [Offends]

theorem fitUpTo_cons_cons {count : Nat} :
    FitUpTo labels (term :: operator :: words) (count + 2) ↔
      (∃ contribution, Denotes labels term contribution) ∧ IsOperator operator ∧
        FitUpTo labels words count := by
  constructor
  · intro fits
    refine ⟨fits 0 term (by omega) rfl, fits 1 operator (by omega) rfl, ?_⟩
    intro position word before found
    exact (fits_add_two position word).mp (fits (position + 2) word (by omega) found)
  · rintro ⟨denotes, isOperator, fits⟩ position word before found
    match position with
    | 0 =>
      cases found
      exact denotes
    | 1 =>
      cases found
      exact isOperator
    | position + 2 => exact (fits_add_two position word).mpr (fits position word (by omega) found)

theorem firstFault_nil :
    FirstFault labels text [] cause ↔ cause = .malformed (.expressionIncomplete text) := by
  simp [FirstFault, FitUpTo]

theorem firstFault_singleton : FirstFault labels text [term] cause ↔ Misfits labels term cause := by
  constructor
  · rintro (⟨position, word, found, _, offends⟩ | ⟨even, _⟩)
    · cases position with
      | zero =>
        cases found
        exact offends
      | succ position => simp at found
    · simp at even
  · intro misfits
    exact .inl ⟨0, term, rfl, nofun, misfits⟩

theorem firstFault_cons_cons :
    FirstFault labels text (term :: operator :: words) cause ↔
      Misfits labels term cause ∨ (∃ contribution, Denotes labels term contribution) ∧
        (¬ IsOperator operator ∧ cause = .malformed (.signExpected operator) ∨
          IsOperator operator ∧ FirstFault labels text words cause) := by
  constructor
  · rintro (⟨position, word, found, fits, offends⟩ | ⟨even, fits, incomplete⟩)
    · match position with
      | 0 =>
        cases found
        exact .inl offends
      | 1 =>
        cases found
        exact .inr ⟨fits 0 term (by omega) rfl, .inl offends⟩
      | position + 2 =>
        obtain ⟨denotes, isOperator, before⟩ := fitUpTo_cons_cons.mp fits
        exact .inr ⟨denotes, .inr ⟨isOperator, .inl ⟨position, word, found, before,
          (offends_add_two position word).mp offends⟩⟩⟩
    · obtain ⟨denotes, isOperator, all⟩ := fitUpTo_cons_cons.mp fits
      simp only [List.length_cons] at even
      exact .inr ⟨denotes, .inr ⟨isOperator, .inr ⟨by omega, all, incomplete⟩⟩⟩
  · rintro (misfits | ⟨denotes, offends | ⟨isOperator, fault⟩⟩)
    · exact .inl ⟨0, term, rfl, nofun, misfits⟩
    · refine .inl ⟨1, operator, rfl, ?_, offends⟩
      intro position word before found
      obtain rfl : position = 0 := by omega
      cases found
      exact denotes
    · rcases fault with ⟨position, word, found, fits, offends⟩ | ⟨even, fits, incomplete⟩
      · exact .inl ⟨position + 2, word, found,
          fitUpTo_cons_cons.mpr ⟨denotes, isOperator, fits⟩,
          (offends_add_two position word).mpr offends⟩
      · refine .inr ⟨?_, fitUpTo_cons_cons.mpr ⟨denotes, isOperator, fits⟩, incomplete⟩
        simp only [List.length_cons]
        omega

/-- A word that does not fit is complained about. -/
theorem Offends.not_fits {position : Nat} {word : List Char} {reader : Reader}
    (labelled : reader.Labelled) (offends : Offends reader.labels position word cause) :
    ¬ Fits reader.labels position word := by
  unfold Offends at offends
  unfold Fits
  split at offends
  · rename_i even
    rw [if_pos even]
    rintro ⟨contribution, denotes⟩
    have added := addTerm_of_denotes labelled denotes (.inl rfl) .zero
    rw [addTerm_of_misfits labelled offends] at added
    cases added
  · rename_i odd
    rw [if_neg odd]
    exact offends.1

/-- Words are an expression, or something is wrong with them. -/
theorem spells_or_firstFault (labels : List (List Char × VariableId)) (text : List Char)
    (sign : Float) (words : List (List Char)) :
    (∃ signed, Spells labels sign words signed) ∨ ∃ cause, FirstFault labels text words cause := by
  induction words using List.twoStepInduction generalizing sign with
  | nil => exact .inr ⟨_, firstFault_nil.mpr rfl⟩
  | singleton term =>
    rcases denotes_or_misfits labels term with ⟨contribution, denotes⟩ | ⟨cause, misfits⟩
    · exact .inl ⟨_, spells_singleton.mpr ⟨contribution, rfl, denotes⟩⟩
    · exact .inr ⟨cause, firstFault_singleton.mpr misfits⟩
  | cons_cons term operator words inductionHypothesis _ =>
    rcases denotes_or_misfits labels term with ⟨contribution, denotes⟩ | ⟨cause, misfits⟩
    · by_cases isOperator : IsOperator operator
      · rcases inductionHypothesis (operatorSign operator) with ⟨rest, spells⟩ | ⟨cause, fault⟩
        · exact .inl ⟨_, spells_cons_cons.mpr
            ⟨contribution, rest, rfl, denotes, isOperator, spells⟩⟩
        · exact .inr ⟨cause, firstFault_cons_cons.mpr
            (.inr ⟨⟨contribution, denotes⟩, .inr ⟨isOperator, fault⟩⟩)⟩
      · exact .inr ⟨_, firstFault_cons_cons.mpr
          (.inr ⟨⟨contribution, denotes⟩, .inl ⟨isOperator, rfl⟩⟩)⟩
    · exact .inr ⟨cause, firstFault_cons_cons.mpr (.inl misfits)⟩

end Pairs

/-! ## Run lemmas: all words -/

section Run

variable {reader : Reader} (labelled : reader.Labelled) (text : List Char)
include labelled

/-- Words that are an expression are added up, term by term. -/
theorem addTerms_of_spells {words : List (List Char)} {sign : Float}
    (isSign : sign = 1 ∨ sign = -1) {signed : List (Float × Contribution)}
    (spells : Spells reader.labels sign words signed) (sum : Expr Float) :
    Reader.addTerms reader.labels text sign sum words =
      .ok (signed.foldl (fun sum term => term.2.addTo term.1 sum) sum) := by
  induction words using List.twoStepInduction generalizing sign signed sum with
  | nil => exact absurd spells not_spells_nil
  | singleton term =>
    obtain ⟨contribution, rfl, denotes⟩ := spells_singleton.mp spells
    exact addTerm_of_denotes labelled denotes isSign sum
  | cons_cons term operator words inductionHypothesis _ =>
    obtain ⟨contribution, rest, rfl, denotes, isOperator, spells⟩ := spells_cons_cons.mp spells
    rw [Reader.addTerms, addTerm_of_denotes labelled denotes isSign]
    show (Reader.signOf operator >>= fun sign => _) = _
    rw [signOf_of_isOperator isOperator]
    exact inductionHypothesis (isSign_operatorSign operator) spells _

/-- Words that are no expression are refused for their first fault. -/
theorem addTerms_of_firstFault {words : List (List Char)} {cause : ParseCause} {sign : Float}
    (isSign : sign = 1 ∨ sign = -1) (fault : FirstFault reader.labels text words cause)
    (sum : Expr Float) : Reader.addTerms reader.labels text sign sum words = .error cause := by
  induction words using List.twoStepInduction generalizing sign sum with
  | nil =>
    obtain rfl := firstFault_nil.mp fault
    rfl
  | singleton term => exact addTerm_of_misfits labelled (firstFault_singleton.mp fault) sign sum
  | cons_cons term operator words inductionHypothesis _ =>
    rw [Reader.addTerms]
    rcases firstFault_cons_cons.mp fault with misfits | ⟨⟨contribution, denotes⟩, fault⟩
    · rw [addTerm_of_misfits labelled misfits]
      rfl
    · rw [addTerm_of_denotes labelled denotes isSign]
      show (Reader.signOf operator >>= fun sign => _) = _
      rcases fault with ⟨other, rfl⟩ | ⟨isOperator, fault⟩
      · rw [signOf_of_not_isOperator other]
        rfl
      · rw [signOf_of_isOperator isOperator]
        exact inductionHypothesis (isSign_operatorSign operator) fault _

omit labelled in
/-- Adding contributions up one by one gives their total. -/
theorem foldl_addTo (signed : List (Float × Contribution)) (sum : Expr Float) :
    signed.foldl (fun sum term => term.2.addTo term.1 sum) sum =
      { constant :=
          (signed.filterMap fun term => term.2.constant? term.1).foldl (· + ·) sum.constant
        linear := sum.linear ++ (total signed).linear
        quadratic := sum.quadratic ++ (total signed).quadratic } := by
  induction signed generalizing sum with
  | nil => simp [total]
  | cons term signed inductionHypothesis =>
    obtain ⟨sign, contribution⟩ := term
    rw [List.foldl_cons, inductionHypothesis]
    cases contribution <;>
      simp [total, Contribution.addTo, Contribution.constant?, Contribution.linear?,
        Contribution.quadratic?]

/-- An expression is accepted exactly if its words are one, and means their total. -/
theorem expression_eq_ok {sum : Expr Float} :
    Reader.expression reader.labels text = .ok sum ↔
      ∃ signed, Spells reader.labels 1 (Text.words text) signed ∧ sum = total signed := by
  have accepts : ∀ {signed}, Spells reader.labels 1 (Text.words text) signed →
      Reader.expression reader.labels text = .ok (total signed) := by
    intro signed spells
    have summed := foldl_addTo signed .zero
    rw [Reader.expression, addTerms_of_spells labelled text (.inl rfl) spells, summed]
    simp [total, Expr.zero, Expr.const]
  constructor
  · intro accepted
    rcases spells_or_firstFault reader.labels text 1 (Text.words text) with
      ⟨signed, spells⟩ | ⟨cause, fault⟩
    · rw [accepts spells] at accepted
      cases accepted
      exact ⟨signed, spells, rfl⟩
    · rw [Reader.expression, addTerms_of_firstFault labelled text (.inl rfl) fault] at accepted
      cases accepted
  · rintro ⟨signed, spells, rfl⟩
    exact accepts spells

theorem expression_eq_error {cause : ParseCause} :
    Reader.expression reader.labels text = .error cause ↔
      FirstFault reader.labels text (Text.words text) cause := by
  constructor
  · intro refused
    rcases spells_or_firstFault reader.labels text 1 (Text.words text) with
      ⟨signed, spells⟩ | ⟨other, fault⟩
    · rw [(expression_eq_ok labelled text).mpr ⟨signed, spells, rfl⟩] at refused
      cases refused
    · rw [Reader.expression, addTerms_of_firstFault labelled text (.inl rfl) fault] at refused
      cases refused
      exact fault
  · intro fault
    exact addTerms_of_firstFault labelled text (.inl rfl) fault .zero

/-- Words are an expression exactly if their number is odd and each one fits its position. -/
theorem exists_spells_iff {words : List (List Char)} :
    (∃ signed, Spells reader.labels 1 words signed) ↔
      words.length % 2 = 1 ∧ FitUpTo reader.labels words words.length := by
  constructor
  · rintro ⟨signed, spells⟩
    have length := spells.length
    refine ⟨by omega, fun position word before found => ?_⟩
    unfold Fits
    split
    · rename_i even
      obtain ⟨index, rfl⟩ : ∃ index, position = 2 * index := ⟨position / 2, by omega⟩
      have inside : index < signed.length := by omega
      obtain ⟨_, other, there, denotes⟩ :=
        spells.terms index _ _ (List.getElem?_eq_getElem inside)
      rw [found] at there
      cases there
      exact ⟨_, denotes⟩
    · rename_i odd
      obtain ⟨index, rfl⟩ : ∃ index, position = 2 * index + 1 := ⟨position / 2, by omega⟩
      exact spells.operators index word found
  · rintro ⟨odd, fits⟩
    refine (spells_or_firstFault reader.labels [] 1 words).resolve_right ?_
    rintro ⟨cause, ⟨position, word, found, _, offends⟩ | ⟨even, _⟩⟩
    · have inside := (List.getElem?_eq_some_iff.mp found).1
      exact offends.not_fits labelled (fits position word inside found)
    · omega

end Run

/-- Whatever labels the lines before it declared, an expression is accepted exactly if it has an
odd number of words, with terms and operators in turn.  It then means the total of its terms, each
under the sign right before it, and otherwise its first fault is reported. -/
theorem expression_follows_grammar {number : Nat} {lines : List (List Char)} {reader : Reader}
    (run : Reader.readLines number lines {} = .ok () reader) (text : List Char) :
    ((∃ sum, Reader.expression reader.labels text = .ok sum) ↔
      (Text.words text).length % 2 = 1 ∧
        FitUpTo reader.labels (Text.words text) (Text.words text).length) ∧
    (∀ sum, Reader.expression reader.labels text = .ok sum ↔
      ∃ signed, Spells reader.labels 1 (Text.words text) signed ∧ sum = total signed) ∧
    (∀ cause, Reader.expression reader.labels text = .error cause ↔
      FirstFault reader.labels text (Text.words text) cause) := by
  have labelled := Reader.labelled_of_readLines run
  refine ⟨?_, fun sum => expression_eq_ok labelled text, fun cause =>
    expression_eq_error labelled text⟩
  rw [← exists_spells_iff labelled]
  constructor
  · rintro ⟨sum, accepted⟩
    obtain ⟨signed, spells, _⟩ := (expression_eq_ok labelled text).mp accepted
    exact ⟨signed, spells⟩
  · rintro ⟨signed, spells⟩
    exact ⟨total signed, (expression_eq_ok labelled text).mpr ⟨signed, spells, rfl⟩⟩

/-- Lines that declare a label spelled like a number, and one that was made up. -/
def shadowingLines : List (List Char) :=
  ["# labels".toList, "variables: x, inf".toList, "variables: _v7".toList]

/-- A label spelled like a number counts as a variable, but before a star as a number. -/
theorem expression_follows_grammar_shadowing :
    Reader.readLines 1 shadowingLines {} = .ok () (Reader.ofLines shadowingLines) ∧
      Spells (Reader.ofLines shadowingLines).labels 1
        (Text.words "3*x*inf - inf + 2 - 4*_v7".toList)
        [(1, .product 3 ⟨0⟩ ⟨1⟩), (-1, .multiple 1 ⟨1⟩), (1, .number 2), (-1, .multiple 4 ⟨2⟩)] ∧
      Reader.expression (Reader.ofLines shadowingLines).labels
        "3*x*inf - inf + 2 - 4*_v7".toList =
          .ok (total [(1, .product 3 ⟨0⟩ ⟨1⟩), (-1, .multiple 1 ⟨1⟩), (1, .number 2),
            (-1, .multiple 4 ⟨2⟩)]) := by
  have accepted : Reader.accepts shadowingLines = true := by decide +kernel
  have run := Reader.readLines_ofLines accepted
  have labels : (Reader.ofLines shadowingLines).labels =
      [("x".toList, ⟨0⟩), ("inf".toList, ⟨1⟩), ("_v7".toList, ⟨2⟩)] := by decide +kernel
  have words : Text.words "3*x*inf - inf + 2 - 4*_v7".toList =
      ["3".toList ++ '*' :: ("x".toList ++ '*' :: "inf".toList), ['-'], "inf".toList, ['+'],
        "2".toList, ['-'], "4".toList ++ '*' :: "_v7".toList] := by decide +kernel
  have spells : Spells (Reader.ofLines shadowingLines).labels 1
      (Text.words "3*x*inf - inf + 2 - 4*_v7".toList)
        [(1, .product 3 ⟨0⟩ ⟨1⟩), (-1, .multiple 1 ⟨1⟩), (1, .number 2),
          (-1, .multiple 4 ⟨2⟩)] := by
    rw [labels, words, spells_cons_cons]
    refine ⟨_, _, rfl, .product (by decide +kernel) (by decide +kernel) (by decide +kernel),
      .inr rfl, ?_⟩
    rw [spells_cons_cons]
    refine ⟨_, _, rfl, .label (by decide +kernel), .inl rfl, ?_⟩
    rw [spells_cons_cons]
    refine ⟨_, _, rfl, .number (by decide +kernel) (by decide +kernel), .inr rfl, ?_⟩
    rw [spells_singleton]
    exact ⟨_, rfl, .multiple (by decide +kernel) (by decide +kernel)⟩
  exact ⟨run, spells, ((expression_follows_grammar run _).2.1 _).mpr ⟨_, spells, rfl⟩⟩

end ConicModel.Model
