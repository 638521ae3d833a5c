import ConicModel.Proofs.Result.Decoding

/-!
Contract: dense matrices whose sizes and places are computed in machine words.

Owns:
- the two ways to treat a number that does not fit a word;
- the place of an entry, zeros, the writing of an entry and the shaping of components, with every
  product and every sum a word;
- the fact that they are what exact numbers give wherever the data fits;
- the dimensions and the length of what they give in any case.

Does not own: reading entries, and which matrices are full.

A word is below `2 ^ 64`, and a vector of numbers of eight bytes, whose size in bytes is at most
half of that, has fewer than `2 ^ 60` of them.
-/

namespace ConicModel

/-- What becomes of a number that does not fit a word: the program fails, or the number wraps
around. -/
inductive Overflow where
  | fails
  | wraps
deriving DecidableEq

namespace Overflow

variable {overflow : Overflow} {number : Nat}

def word? (overflow : Overflow) (number : Nat) : Option Nat :=
  if number < 2 ^ 64 then some number
  else match overflow with
    | fails => none
    | wraps => some (number % 2 ^ 64)

theorem word?_of_lt (fits : number < 2 ^ 64) : overflow.word? number = some number :=
  if_pos fits

/-- A word is the number that it was made from, unless that has wrapped around. -/
theorem eq_of_word? {word : Nat} (made : overflow.word? number = some word) :
    word = number ∨ overflow = .wraps ∧ 2 ^ 64 ≤ number := by
  unfold word? at made
  split at made
  · exact .inl (Option.some.inj made).symm
  · next large =>
    cases overflow with
    | fails => cases made
    | wraps => exact .inr ⟨rfl, Nat.le_of_not_lt large⟩

def place? (overflow : Overflow) (row cols col : Nat) : Option Nat := do
  let before ← overflow.word? (row * cols)
  overflow.word? (before + col)

theorem place?_of_lt {row cols col : Nat} (fits : row * cols + col < 2 ^ 64) :
    overflow.place? row cols col = some (row * cols + col) := by
  unfold place?
  rw [word?_of_lt (Nat.lt_of_le_of_lt (Nat.le_add_right _ _) fits)]
  exact word?_of_lt fits

def count? (overflow : Overflow) : SetShape → Option Nat
  | .scalar => some 1
  | .vector length => some length
  | .triangle side => do
    let next ← overflow.word? (side + 1)
    let product ← overflow.word? (side * next)
    return product / 2
  | .square side => overflow.word? (side * side)

end Overflow

/-! ## Loops that follow each other -/

section Loops

variable {σ β : Type} {step other : σ → β → Option σ}

/-- A loop that succeeds is followed by another one whose steps agree with its own. -/
theorem foldlM_follows (Keeps : σ → Prop)
    (follows : ∀ state item next, Keeps state → step state item = some next →
      other state item = some next ∧ Keeps next)
    {items : List β} {state last : σ} (kept : Keeps state)
    (run : items.foldlM step state = some last) :
    items.foldlM other state = some last ∧ Keeps last := by
  induction items generalizing state with
  | nil =>
    cases run
    exact ⟨rfl, kept⟩
  | cons item items inductionHypothesis =>
    rw [List.foldlM_cons] at run ⊢
    obtain ⟨next, stepped, rest⟩ := Option.bind_eq_some_iff.mp run
    obtain ⟨same, keptNext⟩ := follows state item next kept stepped
    rw [same]
    exact inductionHypothesis keptNext rest

end Loops

variable {K : Type}

namespace DenseMatrix

variable {put other : DenseMatrix K → Nat → Nat → K → Option (DenseMatrix K)}
  {Keeps : DenseMatrix K → Prop}
  (follows : ∀ matrix row col value next, Keeps matrix → put matrix row col value = some next →
    other matrix row col value = some next ∧ Keeps next)
  {start filled : DenseMatrix K} {side : Nat} {values : List K}
include follows

/-- A triangle that is filled in one way is filled in every way that follows it. -/
theorem fillTriangleBy?_follows (kept : Keeps start)
    (run : fillTriangleBy? put start side values = some filled) :
    fillTriangleBy? other start side values = some filled ∧ Keeps filled := by
  have mirrored : ∀ col (state : DenseMatrix K × Nat) row next, Keeps state.1 →
      putMirroredBy? put values col state row = some next →
        putMirroredBy? other values col state row = some next ∧ Keeps next.1 := by
    intro col state row next keptState stepped
    obtain ⟨value, present, stepped⟩ := Option.bind_eq_some_iff.mp stepped
    obtain ⟨upper, first, stepped⟩ := Option.bind_eq_some_iff.mp stepped
    obtain ⟨both, second, stepped⟩ := Option.bind_eq_some_iff.mp stepped
    cases stepped
    obtain ⟨first', keptUpper⟩ := follows _ _ _ _ _ keptState first
    obtain ⟨second', keptBoth⟩ := follows _ _ _ _ _ keptUpper second
    unfold putMirroredBy?
    rw [present, Option.bind_eq_bind, Option.bind_some, first', Option.bind_eq_bind,
      Option.bind_some, second']
    exact ⟨rfl, keptBoth⟩
  obtain ⟨last, looped, isFilled⟩ := Option.bind_eq_some_iff.mp run
  cases isFilled
  have column : ∀ (state : DenseMatrix K × Nat) col next, Keeps state.1 →
      (List.range (col + 1)).foldlM (putMirroredBy? put values col) state = some next →
        (List.range (col + 1)).foldlM (putMirroredBy? other values col) state = some next ∧
          Keeps next.1 :=
    fun _ col _ =>
      foldlM_follows (fun state : DenseMatrix K × Nat => Keeps state.1) (mirrored col)
  have keptStart : Keeps (start, (0 : Nat)).1 := kept
  obtain ⟨same, keptLast⟩ :=
    foldlM_follows (fun state : DenseMatrix K × Nat => Keeps state.1) column keptStart looped
  unfold fillTriangleBy?
  dsimp only
  rw [same]
  exact ⟨rfl, keptLast⟩

/-- So is a square. -/
theorem fillColumnsBy?_follows (kept : Keeps start)
    (run : fillColumnsBy? put start side values = some filled) :
    fillColumnsBy? other start side values = some filled ∧ Keeps filled := by
  refine foldlM_follows Keeps (fun matrix numbered next keptMatrix stepped => ?_) kept run
  unfold putColumnwiseBy? at stepped ⊢
  split at stepped
  · cases stepped
  · next filledSide =>
    rw [if_neg filledSide]
    exact follows _ _ _ _ _ keptMatrix stepped

omit follows

/-! ## Zeros and entries in words -/

/-- Writes an entry; fails if the data has no place with the computed number. -/
def putIn? (overflow : Overflow) (matrix : DenseMatrix K) (row col : Nat) (value : K) :
    Option (DenseMatrix K) := do
  let place ← overflow.place? row matrix.cols col
  if place < matrix.data.length then some { matrix with data := matrix.data.set place value }
  else none

/-- Zeros, as many as the product of the dimensions counts; fails if a vector cannot hold them. -/
def zerosIn? [Zero K] (overflow : Overflow) (rows cols : Nat) : Option (DenseMatrix K) := do
  let count ← overflow.word? (rows * cols)
  if count < 2 ^ 60 then some ⟨rows, cols, List.replicate count 0⟩ else none

section Words

variable {overflow : Overflow} {rows cols length : Nat} {matrix next : DenseMatrix K}
  {row col : Nat} {value : K}

def IsOfSize (rows cols length : Nat) (matrix : DenseMatrix K) : Prop :=
  matrix.rows = rows ∧ matrix.cols = cols ∧ matrix.data.length = length

theorem isOfSize_of_putIn? (size : matrix.IsOfSize rows cols length)
    (written : putIn? overflow matrix row col value = some next) :
    next.IsOfSize rows cols length := by
  obtain ⟨place, -, written⟩ := Option.bind_eq_some_iff.mp written
  split at written
  · cases written
    exact ⟨size.1, size.2.1, List.length_set.trans size.2.2⟩
  · cases written

/-- A write at an exact place is one at a computed place, since the place is within the data. -/
theorem putIn?_of_put? (overflow : Overflow) (short : length < 2 ^ 60)
    (size : matrix.IsOfSize rows cols length)
    (written : put? matrix row col value = some next) :
    putIn? overflow matrix row col value = some next ∧ next.IsOfSize rows cols length := by
  have computed : putIn? overflow matrix row col value = some next := by
    unfold put? at written
    split at written
    · next inside =>
      have within := size.2.2 ▸ inside
      unfold putIn?
      rw [Overflow.place?_of_lt (by omega)]
      exact (if_pos inside).trans written
    · cases written
  exact ⟨computed, isOfSize_of_putIn? size computed⟩

variable [Zero K]

theorem zeros_eq_replicate (rows cols : Nat) :
    (zeros rows cols : DenseMatrix K) = ⟨rows, cols, List.replicate (rows * cols) 0⟩ := by
  have entries : (zeros rows cols : DenseMatrix K).data = List.replicate (rows * cols) 0 := by
    refine List.eq_replicate_iff.mpr ⟨length_ofEntries rows cols _, fun entry member => ?_⟩
    obtain ⟨row, -, inRow⟩ := List.mem_flatMap.mp member
    obtain ⟨col, -, isZero⟩ := List.mem_map.mp inRow
    exact isZero.symm
  rw [← entries]
  rfl

theorem zerosIn?_of_lt (fits : rows * cols < 2 ^ 60) :
    zerosIn? overflow rows cols = some (zeros rows cols : DenseMatrix K) := by
  unfold zerosIn?
  rw [Overflow.word?_of_lt (by omega), zeros_eq_replicate]
  exact if_pos fits

theorem isOfSize_of_zerosIn? (made : zerosIn? overflow rows cols = some matrix) :
    ∃ count, overflow.word? (rows * cols) = some count ∧ matrix.IsOfSize rows cols count := by
  obtain ⟨count, counted, made⟩ := Option.bind_eq_some_iff.mp made
  split at made
  · cases made
    exact ⟨count, counted, rfl, rfl, List.length_replicate⟩
  · cases made

theorem isOfSize_zeros (rows cols : Nat) :
    (zeros rows cols : DenseMatrix K).IsOfSize rows cols (rows * cols) :=
  ⟨rfl, rfl, length_ofEntries rows cols _⟩

section Filling

variable {side : Nat} {values : List K}

theorem fillTriangleBy?_putIn? (overflow : Overflow) (fits : side * side < 2 ^ 60)
    (length : values.length = triangularNumber side) :
    fillTriangleBy? (putIn? overflow) (zeros side side) side values =
      some (ofTriangle side values) :=
  (fillTriangleBy?_follows (fun _ _ _ _ _ => putIn?_of_put? overflow fits)
    (isOfSize_zeros side side) (fillTriangle?_eq length)).1

theorem fillColumnsBy?_putIn? (overflow : Overflow) (fits : side * side < 2 ^ 60)
    (room : values.length ≤ side * side) :
    fillColumnsBy? (putIn? overflow) (zeros side side) side values =
      some (ofColumns side values) :=
  (fillColumnsBy?_follows (fun _ _ _ _ _ => putIn?_of_put? overflow fits)
    (isOfSize_zeros side side) (fillColumns?_eq room)).1

end Filling

/-- Without the check for overflow there are sizes with zeros but no entries. -/
example : zerosIn? .wraps (2 ^ 32) (2 ^ 32) = some (⟨2 ^ 32, 2 ^ 32, []⟩ : DenseMatrix Nat) :=
  rfl

end Words

end DenseMatrix

/-! ## Shaping in words -/

section Shaping

variable [Zero K] {overflow : Overflow} {set : ConstraintSet K} {values : List K}

/-- Shapes the components of a value of `set`; there is no result if an access is out of range or
the program fails at an overflow. -/
def decodeIn? (overflow : Overflow) (set : ConstraintSet K) (values : List K) :
    Option (Except LengthMismatch (ResultValue K)) := do
  let expected ← overflow.count? set.shape
  if values.length = expected then
    match set.shape with
    | .scalar => do
      let number ← values[0]?
      return .ok (.scalar number)
    | .vector _ => return .ok (.vector values)
    | .triangle side => do
      let start ← DenseMatrix.zerosIn? overflow side side
      let matrix ← DenseMatrix.fillTriangleBy? (DenseMatrix.putIn? overflow) start side values
      return .ok (.matrix matrix)
    | .square side => do
      let start ← DenseMatrix.zerosIn? overflow side side
      let matrix ← DenseMatrix.fillColumnsBy? (DenseMatrix.putIn? overflow) start side values
      return .ok (.matrix matrix)
  else return .error ⟨set.name, expected, values.length⟩

/-- The shapes for whose matrices there is room in a vector. -/
def SetShape.Fits : SetShape → Prop
  | triangle side => side * side < 2 ^ 60
  | square side => side * side < 2 ^ 60
  | _ => True

theorem SetShape.count?_of_fits {shape : SetShape} (fits : shape.Fits) :
    overflow.count? shape = some shape.count := by
  cases shape with
  | scalar => rfl
  | vector length => rfl
  | triangle side =>
    have short : side * side < 2 ^ 60 := fits
    have below : side < 2 ^ 60 := by
      rcases Nat.eq_zero_or_pos side with rfl | positive
      · decide
      · exact Nat.lt_of_le_of_lt (Nat.le_mul_of_pos_left side positive) short
    have product : side * (side + 1) < 2 ^ 64 := by
      rw [Nat.mul_succ]
      omega
    show (overflow.word? (side + 1)).bind (fun next =>
      (overflow.word? (side * next)).bind fun product => some (product / 2)) = _
    rw [Overflow.word?_of_lt (by omega), Option.bind_some, Overflow.word?_of_lt product]
    rfl
  | square side =>
    have short : side * side < 2 ^ 60 := fits
    exact Overflow.word?_of_lt (by omega)

/-- Where there is room for the matrix, words give what exact numbers give. -/
theorem decodeIn?_of_fits (fits : set.shape.Fits) :
    decodeIn? overflow set values = some (decode set values) := by
  have counted : overflow.count? set.shape = some set.dimension :=
    set.count_shape ▸ SetShape.count?_of_fits fits
  rw [← decodeChecked?_eq]
  unfold decodeIn? decodeChecked?
  rw [counted, Option.bind_eq_bind, Option.bind_some]
  by_cases length : values.length = set.dimension
  · rw [if_pos length, if_pos length]
    rw [← set.count_shape] at length
    cases shape : set.shape with
    | scalar => rfl
    | vector _ => rfl
    | triangle side =>
      rw [shape] at fits length
      dsimp only
      rw [DenseMatrix.zerosIn?_of_lt fits, DenseMatrix.fillTriangle?_eq length,
        Option.bind_eq_bind, Option.bind_some, DenseMatrix.fillTriangleBy?_putIn? _ fits length]
    | square side =>
      rw [shape] at fits length
      dsimp only
      rw [DenseMatrix.zerosIn?_of_lt fits, DenseMatrix.fillColumns?_eq (Nat.le_of_eq length),
        Option.bind_eq_bind, Option.bind_some,
        DenseMatrix.fillColumnsBy?_putIn? _ fits (Nat.le_of_eq length)]
  · rw [if_neg length, if_neg length]

/-- Zeros that are filled keep their size, if the filling does. -/
theorem isOfSize_of_filled {side : Nat} {matrix : DenseMatrix K}
    {fill : DenseMatrix K → Option (DenseMatrix K)}
    (keeps : ∀ {start filled count}, DenseMatrix.IsOfSize side side count start →
      fill start = some filled → filled.IsOfSize side side count)
    (shaped : ((DenseMatrix.zerosIn? overflow side side).bind fun start =>
      (fill start).bind fun filled => some (.ok (.matrix filled))) =
        (some (.ok (.matrix matrix)) : Option (Except LengthMismatch (ResultValue K)))) :
    ∃ count, overflow.word? (side * side) = some count ∧ matrix.IsOfSize side side count := by
  obtain ⟨start, made, shaped⟩ := Option.bind_eq_some_iff.mp shaped
  obtain ⟨filled, run, shaped⟩ := Option.bind_eq_some_iff.mp shaped
  cases shaped
  obtain ⟨count, counted, size⟩ := DenseMatrix.isOfSize_of_zerosIn? made
  exact ⟨count, counted, keeps size run⟩

/-- A matrix that is shaped is square and has as many entries as zeros have. -/
theorem isOfSize_of_decodeIn? {matrix : DenseMatrix K}
    (decoded : decodeIn? overflow set values = some (.ok (.matrix matrix))) :
    ∃ side count, overflow.word? (side * side) = some count ∧ matrix.IsOfSize side side count := by
  have written : ∀ {rows cols length : Nat} (start : DenseMatrix K) row col value next,
      start.IsOfSize rows cols length →
        DenseMatrix.putIn? overflow start row col value = some next →
          DenseMatrix.putIn? overflow start row col value = some next ∧
            next.IsOfSize rows cols length :=
    fun _ _ _ _ _ size written => ⟨written, DenseMatrix.isOfSize_of_putIn? size written⟩
  obtain ⟨expected, -, decoded⟩ := Option.bind_eq_some_iff.mp decoded
  split at decoded
  · cases shape : set.shape with
    | scalar =>
      rw [shape] at decoded
      obtain ⟨number, -, decoded⟩ := Option.bind_eq_some_iff.mp decoded
      cases decoded
    | vector _ =>
      rw [shape] at decoded
      cases decoded
    | triangle side =>
      rw [shape] at decoded
      exact ⟨side, isOfSize_of_filled
        (fun size run => (DenseMatrix.fillTriangleBy?_follows written size run).2) decoded⟩
    | square side =>
      rw [shape] at decoded
      exact ⟨side, isOfSize_of_filled
        (fun size run => (DenseMatrix.fillColumnsBy?_follows written size run).2) decoded⟩
  · cases decoded

end Shaping

end ConicModel
