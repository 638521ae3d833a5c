import ConicModel.Proofs.Result.Overflow

/-!
Contract: reads of a dense matrix that find their entries in the data, and reads that do not.

Owns:
- full matrices, whose data has as many entries as the dimensions say;
- reading an entry and testing for symmetry, with every place a word and every access checked;
- the fact that a check which passes gives what the unchecked read gives;
- the matrices of which every entry can be read, and those on which the test for symmetry fails.

Does not own: where a matrix comes from.

A place is compared with the dimensions only, so a read fails where these promise more than the
data has.  The test for symmetry stops at the first difference, and what stands behind that is
never looked for.  It also stops at the first place behind the data, which comes before any place
that is no word.
-/

namespace ConicModel

/-! ## Tests that may fail -/

section Tests

variable {test : Nat → Option Bool} {count : Nat}

theorem allM_concat (items : List Nat) (last : Nat) :
    (items ++ [last]).allM test =
      (items.allM test).bind fun passed => if passed then test last else some false := by
  induction items with
  | nil =>
    simp only [List.nil_append, List.allM]
    rcases test last with _ | _ | _ <;> rfl
  | cons first others inductionHypothesis =>
    rw [List.cons_append, List.allM, List.allM]
    rcases test first with _ | _ | _
    · rfl
    · rfl
    · exact inductionHypothesis

theorem allM_range_succ :
    (List.range (count + 1)).allM test =
      ((List.range count).allM test).bind fun passed =>
        if passed then test count else some false := by
  rw [List.range_succ, allM_concat]

/-- Numbers pass if each of them does. -/
theorem allM_range_eq_true_iff :
    (List.range count).allM test = some true ↔ ∀ number < count, test number = some true := by
  induction count with
  | zero => exact iff_of_true rfl nofun
  | succ count inductionHypothesis =>
    rw [allM_range_succ, Nat.forall_lt_succ_right, ← inductionHypothesis]
    rcases (List.range count).allM test with _ | _ | _ <;> simp

/-- Every other outcome is that of the first number that does not pass. -/
theorem allM_range_eq_iff {stop : Option Bool} (stops : stop ≠ some true) :
    (List.range count).allM test = stop ↔
      ∃ number < count, test number = stop ∧ ∀ before < number, test before = some true := by
  induction count with
  | zero =>
    refine iff_of_false (fun same => stops (same.symm.trans rfl)) ?_
    rintro ⟨number, below, -⟩
    exact absurd below (Nat.not_lt_zero number)
  | succ count inductionHypothesis =>
    rw [allM_range_succ]
    by_cases passed : (List.range count).allM test = some true
    · have allPass := allM_range_eq_true_iff.mp passed
      rw [passed]
      constructor
      · exact fun last => ⟨count, Nat.lt_succ_self count, last, allPass⟩
      · rintro ⟨number, within, outcome, -⟩
        rcases Nat.lt_succ_iff_lt_or_eq.mp within with earlier | rfl
        · exact absurd (outcome.symm.trans (allPass number earlier)) stops
        · exact outcome
    · have unchanged : (((List.range count).allM test).bind fun passed =>
          if passed then test count else some false) = (List.range count).allM test := by
        rcases outcome : (List.range count).allM test with _ | _ | _
        · rfl
        · rfl
        · exact absurd outcome passed
      rw [unchanged, inductionHypothesis]
      constructor
      · rintro ⟨number, below, outcome⟩
        exact ⟨number, Nat.lt_succ_of_lt below, outcome⟩
      · rintro ⟨number, within, outcome, allPass⟩
        refine ⟨number, ?_, outcome, allPass⟩
        refine (Nat.lt_succ_iff_lt_or_eq.mp within).resolve_right ?_
        rintro rfl
        exact passed (allM_range_eq_true_iff.mpr allPass)

end Tests

namespace DenseMatrix

variable {K : Type}

/-! ## Full matrices -/

/-- A matrix whose data has as many entries as its dimensions say. -/
def IsFull (matrix : DenseMatrix K) : Prop :=
  matrix.data.length = matrix.rows * matrix.cols

instance (matrix : DenseMatrix K) : Decidable matrix.IsFull :=
  inferInstanceAs (Decidable (_ = _))

/-- Dimensions are words, and the data is a vector of numbers of eight bytes. -/
def SizesFit (matrix : DenseMatrix K) : Prop :=
  matrix.rows < 2 ^ 64 ∧ matrix.cols < 2 ^ 64 ∧ matrix.data.length < 2 ^ 60

instance (matrix : DenseMatrix K) : Decidable matrix.SizesFit :=
  inferInstanceAs (Decidable (_ ∧ _))

/-! ## Entries -/

/-- An entry, if the matrix has it; fails if the data has no such place. -/
def getIn? (overflow : Overflow) (matrix : DenseMatrix K) (row col : Nat) : Option (Option K) :=
  if row < matrix.rows ∧ col < matrix.cols then do
    let place ← overflow.place? row matrix.cols col
    let entry ← matrix.data[place]?
    return some entry
  else return none

section Entries

variable {overflow : Overflow} {matrix : DenseMatrix K} {row col : Nat}

/-- At a place that is a word, the unchecked read takes a missing entry for one outside of the
matrix. -/
theorem get?_eq_join (word : row * matrix.cols + col < 2 ^ 64) :
    matrix.get? row col = (matrix.getIn? overflow row col).join := by
  unfold get? getIn?
  rw [Overflow.place?_of_lt word]
  split
  · cases entry : matrix.data[row * matrix.cols + col]? <;> simp [entry]
  · rfl

/-- A read fails inside of the matrix, where the data has no place for it. -/
theorem getIn?_eq_none_iff (word : row * matrix.cols + col < 2 ^ 64) :
    matrix.getIn? overflow row col = none ↔ (row < matrix.rows ∧ col < matrix.cols) ∧
      matrix.data.length ≤ row * matrix.cols + col := by
  unfold getIn?
  rw [Overflow.place?_of_lt word]
  split
  · next inside =>
    rw [and_iff_right inside, ← List.getElem?_eq_none_iff]
    cases entry : matrix.data[row * matrix.cols + col]? <;> simp [entry]
  · next outside => exact iff_of_false nofun fun missing => outside missing.1

theorem getIn?_of_outside (outside : ¬ (row < matrix.rows ∧ col < matrix.cols)) :
    matrix.getIn? overflow row col = some none :=
  if_neg outside

/-- Every entry can be read if the data has enough of them; they need not be as many as the
dimensions say. -/
theorem forall_getIn?_iff (fits : matrix.SizesFit) :
    (∀ row col, matrix.getIn? overflow row col ≠ none) ↔
      matrix.rows * matrix.cols ≤ matrix.data.length := by
  obtain ⟨-, -, short⟩ := fits
  constructor
  · intro readable
    by_contra missing
    -- the first place behind the data is still one of the matrix
    have within : matrix.data.length < matrix.rows * matrix.cols := Nat.lt_of_not_le missing
    have positive : 0 < matrix.cols := Nat.pos_of_ne_zero fun zero => by simp [zero] at within
    have place : matrix.data.length / matrix.cols * matrix.cols +
        matrix.data.length % matrix.cols = matrix.data.length := Nat.div_add_mod' _ _
    refine readable (matrix.data.length / matrix.cols) (matrix.data.length % matrix.cols)
      ((getIn?_eq_none_iff (by omega)).mpr ⟨⟨?_, Nat.mod_lt _ positive⟩, ?_⟩)
    · exact Nat.div_lt_of_lt_mul (by rwa [Nat.mul_comm])
    · exact Nat.le_of_eq place.symm
  · intro enough row col failed
    by_cases inside : row < matrix.rows ∧ col < matrix.cols
    · have within := place_lt inside.1 inside.2
      obtain ⟨-, missing⟩ := (getIn?_eq_none_iff (by omega)).mp failed
      omega
    · cases (getIn?_of_outside inside).symm.trans failed

theorem getIn?_of_isFull (fits : matrix.SizesFit) (full : matrix.IsFull) (row col : Nat) :
    matrix.getIn? overflow row col = some (matrix.get? row col) := by
  have readable : ∀ row col, matrix.getIn? overflow row col ≠ none :=
    (forall_getIn?_iff fits).mpr (Nat.le_of_eq full.symm)
  obtain ⟨entry, read⟩ := Option.ne_none_iff_exists'.mp (readable row col)
  by_cases inside : row < matrix.rows ∧ col < matrix.cols
  · have within := place_lt inside.1 inside.2
    have short : matrix.rows * matrix.cols < 2 ^ 60 := full ▸ fits.2.2
    rw [get?_eq_join (by omega), read]
    rfl
  · rw [getIn?_of_outside inside]
    exact congrArg some (if_neg inside).symm

end Entries

/-! ## Symmetry -/

section Symmetry

variable [BEq K]

/-- Whether an entry equals its mirror image; fails if the data has no place for one of them. -/
def mirrorsIn? (overflow : Overflow) (matrix : DenseMatrix K) (row col : Nat) : Option Bool := do
  let below ← overflow.place? row matrix.cols col
  let lower ← matrix.data[below]?
  let above ← overflow.place? col matrix.cols row
  let upper ← matrix.data[above]?
  return lower == upper

/-- Whether the matrix is square and equal to its transpose, compared row by row up to the first
difference; fails if the data has no place for an entry that is compared. -/
def isSymmetricIn? (overflow : Overflow) (matrix : DenseMatrix K) : Option Bool :=
  if matrix.rows = matrix.cols then
    (List.range matrix.rows).allM fun row =>
      (List.range row).allM (matrix.mirrorsIn? overflow row)
  else return false

variable {overflow : Overflow} {matrix : DenseMatrix K} {row col : Nat}

/-- At places that are words the entries are compared as they are. -/
theorem mirrorsIn?_of_lt (below : col < row) (within : row < matrix.cols)
    (word : row * matrix.cols + col < 2 ^ 64) :
    matrix.mirrorsIn? overflow row col =
      matrix.data[row * matrix.cols + col]?.bind fun lower =>
        matrix.data[col * matrix.cols + row]?.bind fun upper => some (lower == upper) := by
  have mirrored := place_lt below within
  unfold mirrorsIn?
  rw [Overflow.place?_of_lt word, Overflow.place?_of_lt (by omega)]
  rfl

/-- An entry below the diagonal is behind its mirror image, so it is the one that is missing. -/
theorem mirrorsIn?_eq_none_iff (below : col < row) (within : row < matrix.cols)
    (word : row * matrix.cols + col < 2 ^ 64) :
    matrix.mirrorsIn? overflow row col = none ↔
      matrix.data.length ≤ row * matrix.cols + col := by
  have mirrored := place_lt below within
  rw [mirrorsIn?_of_lt below within word]
  constructor
  · intro failed
    by_contra present
    have lower := List.getElem?_eq_getElem (Nat.lt_of_not_le present)
    have upper := List.getElem?_eq_getElem
      (show col * matrix.cols + row < matrix.data.length by omega)
    rw [lower, upper] at failed
    cases failed
  · intro missing
    rw [List.getElem?_eq_none missing]
    rfl

/-- A comparison that does not fail compares what the unchecked reads give. -/
theorem beq_of_mirrorsIn? {same : Bool} (below : col < row) (within : row < matrix.rows)
    (square : matrix.rows = matrix.cols) (word : row * matrix.cols + col < 2 ^ 64)
    (compared : matrix.mirrorsIn? overflow row col = some same) :
    (matrix.get? row col == matrix.get? col row) = same := by
  rw [mirrorsIn?_of_lt below (square ▸ within) word] at compared
  obtain ⟨lower, atLower, compared⟩ := Option.bind_eq_some_iff.mp compared
  obtain ⟨upper, atUpper, compared⟩ := Option.bind_eq_some_iff.mp compared
  unfold get?
  rw [if_pos ⟨within, by omega⟩, if_pos ⟨by omega, by omega⟩, atLower, atUpper]
  exact Option.some.inj compared

/-- All places of a row are words if the rows above it have been compared without a failure, since
then the data reaches up to the row before, and it is short. -/
theorem word_of_mirrorsIn? (fits : matrix.SizesFit) (square : matrix.rows = matrix.cols)
    (within : row < matrix.rows)
    (passed : ∀ above < row, ∀ before < above,
      matrix.mirrorsIn? overflow above before = some true) :
    row * matrix.cols + row ≤ 2 ^ 64 := by
  obtain ⟨-, wordCols, short⟩ := fits
  induction row with
  | zero => omega
  | succ row inductionHypothesis =>
    rcases Nat.eq_zero_or_pos row with rfl | positive
    · omega
    · have word := inductionHypothesis (by omega) fun above isAbove => passed above (by omega)
      have first := passed row (Nat.lt_succ_self row) 0 positive
      have present : row * matrix.cols < matrix.data.length := by
        by_contra missing
        have failed : matrix.mirrorsIn? overflow row 0 = none :=
          (mirrorsIn?_eq_none_iff positive (by omega) (by omega)).mpr (Nat.le_of_not_lt missing)
        cases failed.symm.trans first
      have cols := Nat.le_mul_of_pos_left matrix.cols positive
      rw [Nat.succ_mul]
      omega

/-- The outcomes other than symmetry are those of the first pair that is not equal. -/
theorem isSymmetricIn?_eq_iff {stop : Option Bool} (stops : stop ≠ some true)
    (square : matrix.rows = matrix.cols) :
    matrix.isSymmetricIn? overflow = stop ↔ ∃ row < matrix.rows, ∃ col < row,
      matrix.mirrorsIn? overflow row col = stop ∧
        (∀ before < col, matrix.mirrorsIn? overflow row before = some true) ∧
        ∀ above < row, ∀ before < above,
          matrix.mirrorsIn? overflow above before = some true := by
  unfold isSymmetricIn?
  rw [if_pos square, allM_range_eq_iff stops]
  simp only [allM_range_eq_true_iff, allM_range_eq_iff stops]
  constructor
  · rintro ⟨row, rowIn, ⟨col, below, outcome, inRow⟩, above⟩
    exact ⟨row, rowIn, col, below, outcome, inRow, above⟩
  · rintro ⟨row, rowIn, col, below, outcome, inRow, above⟩
    exact ⟨row, rowIn, ⟨col, below, outcome, inRow⟩, above⟩

/-- The test fails on a square matrix if the entries that it compares before the first missing
one are equal. -/
theorem isSymmetricIn?_eq_none_iff (fits : matrix.SizesFit) :
    matrix.isSymmetricIn? overflow = none ↔ matrix.rows = matrix.cols ∧
      ∃ row < matrix.rows, ∃ col < row, matrix.data.length ≤ row * matrix.cols + col ∧
        (∀ before < col, matrix.mirrorsIn? overflow row before = some true) ∧
        ∀ above < row, ∀ before < above,
          matrix.mirrorsIn? overflow above before = some true := by
  have stops : (none : Option Bool) ≠ some true := nofun
  by_cases square : matrix.rows = matrix.cols
  · rw [isSymmetricIn?_eq_iff stops square, and_iff_right square]
    refine exists_congr fun row => and_congr_right fun rowIn =>
      exists_congr fun col => and_congr_right fun below => and_congr_left fun passed => ?_
    have word := word_of_mirrorsIn? fits square rowIn passed.2
    exact mirrorsIn?_eq_none_iff below (by omega) (by omega)
  · refine iff_of_false ?_ fun failed => square failed.1
    unfold isSymmetricIn?
    rw [if_neg square]
    nofun

/-- The third row is missing, and is looked for only if the two before it are symmetric. -/
example : (⟨3, 3, [1, 2, 3, 2]⟩ : DenseMatrix Nat).isSymmetricIn? .fails = none ∧
    (⟨3, 3, [1, 2, 3, 4]⟩ : DenseMatrix Nat).isSymmetricIn? .fails = some false := by
  decide

/-- A test that does not fail says what the unchecked one says. -/
theorem isSymmetric_of_tested (fits : matrix.SizesFit) {symmetric : Bool}
    (tested : matrix.isSymmetricIn? overflow = some symmetric) :
    matrix.isSymmetric = symmetric := by
  by_cases square : matrix.rows = matrix.cols
  · cases symmetric with
    | false =>
      obtain ⟨row, rowIn, col, below, different, -, passed⟩ :=
        (isSymmetricIn?_eq_iff (by decide) square).mp tested
      have word := word_of_mirrorsIn? fits square rowIn passed
      refine Bool.eq_false_iff.mpr fun isSymmetric => ?_
      have same := (isSymmetric_iff square).mp isSymmetric row col below rowIn
      have unequal := beq_of_mirrorsIn? below rowIn square (by omega) different
      exact absurd (same.symm.trans unequal) (by decide)
    | true =>
      unfold isSymmetricIn? at tested
      rw [if_pos square] at tested
      simp only [allM_range_eq_true_iff] at tested
      refine (isSymmetric_iff square).mpr fun row col below rowIn => ?_
      have word := word_of_mirrorsIn? fits square rowIn fun above isAbove =>
        tested above (by omega)
      exact beq_of_mirrorsIn? below rowIn square (by omega) (tested row rowIn col below)
  · unfold isSymmetricIn? at tested
    rw [if_neg square] at tested
    cases tested
    exact Bool.and_eq_false_imp.mpr fun same => absurd (beq_iff_eq.mp same) square

theorem isSymmetricIn?_of_isFull (fits : matrix.SizesFit) (full : matrix.IsFull) :
    matrix.isSymmetricIn? overflow = some matrix.isSymmetric := by
  cases tested : matrix.isSymmetricIn? overflow with
  | none =>
    obtain ⟨square, row, rowIn, col, below, missing, -⟩ :=
      (isSymmetricIn?_eq_none_iff fits).mp tested
    have within : row * matrix.cols + col < matrix.rows * matrix.cols :=
      place_lt rowIn (by omega)
    exact absurd (full ▸ missing) (Nat.not_le_of_lt within)
  | some symmetric => rw [isSymmetric_of_tested fits tested]

end Symmetry

end DenseMatrix

end ConicModel
