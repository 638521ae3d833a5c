import ConicModel.Decimal.Numeral
import Mathlib.Data.List.TakeWhile

/-!
Contract: the characters of the texts that are read as numbers.

Owns:
- the classes that have all characters of decimals, and the class that occurs in any accepted
  spelling of a number;
- the fact that accepted spellings consist of these characters, and are not empty.

Does not own: which number a spelling stands for.

Spellings are freer than what is written: they may have a plus sign, a capital
mark before the power, or a word in any mixture of cases.
-/

namespace ConicModel

def isSpellingChar (character : Char) : Bool :=
  character.isAlphanum || ['.', '+', '-'].contains character

theorem isSpellingChar_of_isDigit {character : Char} (digit : character.isDigit = true) :
    isSpellingChar character = true := by
  simp [isSpellingChar, Char.isAlphanum, digit]

theorem isSpellingChar_of_isAlpha {character : Char} (letter : character.isAlpha = true) :
    isSpellingChar character = true := by
  simp [isSpellingChar, Char.isAlphanum, letter]

/-- Only a letter becomes a small letter. -/
theorem isAlpha_of_isLower_toLower {character : Char} (small : character.toLower.isLower = true) :
    character.isAlpha = true := by
  have letter : character.isAlpha = (character.isUpper || character.isLower) := rfl
  rw [letter, Bool.or_eq_true]
  unfold Char.toLower at small
  split at small
  · rename_i capital
    exact .inl (decide_eq_true capital)
  · exact .inr small

namespace Numeral

variable {text : List Char}

/-- Whether a class has all the characters that decimals consist of. -/
structure HasDecimals (accepts : Char → Bool) : Prop where
  digit : ∀ {character}, character.isDigit = true → accepts character = true
  mark : ∀ character ∈ ['.', 'e', 'E', '+', '-'], accepts character = true

section Class

variable {accepts : Char → Bool} (hasDecimals : HasDecimals accepts)
include hasDecimals

/-- What stands before the rest is a sign. -/
theorem accepts_of_splitSign
    (rest : ∀ character ∈ (splitSign text).2, accepts character = true) :
    ∀ character ∈ text, accepts character = true := by
  unfold splitSign at rest
  split at rest
  · exact List.forall_mem_cons.mpr ⟨hasDecimals.mark '-' (by decide), rest⟩
  · exact List.forall_mem_cons.mpr ⟨hasDecimals.mark '+' (by decide), rest⟩
  · exact rest

theorem accepts_of_readPower {power : Int} (read : readPower text = some power) :
    ∀ character ∈ text, accepts character = true := by
  cases text with
  | nil => simp
  | cons mark rest =>
    simp only [readPower] at read
    split at read
    · rename_i marked
      split at read
      · rename_i digits
        refine List.forall_mem_cons.mpr ⟨?_, accepts_of_splitSign hasDecimals ?_⟩
        · rcases marked with rfl | rfl
          · exact hasDecimals.mark 'e' (by decide)
          · exact hasDecimals.mark 'E' (by decide)
        · intro character member
          exact hasDecimals.digit (List.all_eq_true.mp digits.2 character member)
      · cases read
    · cases read

/-- A text is its leading digits, the point with the digits after it, and what
follows. -/
theorem accepts_of_readDecimal {decimal : Decimal} (read : readDecimal text = some decimal) :
    ∀ character ∈ text, accepts character = true := by
  have digits : ∀ part : List Char, ∀ character ∈ part.takeWhile Char.isDigit,
      accepts character = true := by
    intro part character member
    exact hasDecimals.digit (List.mem_takeWhile_imp member)
  unfold readDecimal at read
  simp only at read
  split at read
  · cases read
  · obtain ⟨power, readRest, _⟩ := Option.map_eq_some_iff.mp read
    have rest := accepts_of_readPower hasDecimals readRest
    rw [← List.takeWhile_append_dropWhile (p := Char.isDigit) (l := text), List.forall_mem_append]
    refine ⟨digits text, ?_⟩
    unfold splitFraction at rest
    split at rest
    · rename_i after pointed
      rw [pointed, List.forall_mem_cons,
        ← List.takeWhile_append_dropWhile (p := Char.isDigit) (l := after), List.forall_mem_append]
      exact ⟨hasDecimals.mark '.' (by decide), digits after, rest⟩
    · exact rest

end Class

theorem hasDecimals_isSpellingChar : HasDecimals isSpellingChar where
  digit := isSpellingChar_of_isDigit
  mark := List.all_eq_true.mp (by decide)

theorem isSpellingChar_of_readWord {negative : Bool} {numeral : Numeral}
    (read : readWord negative text = some numeral) :
    ∀ character ∈ text, isSpellingChar character = true := by
  have small : ∀ word ∈ ["inf", "infinity", "nan"], String.ofList (text.map Char.toLower) = word →
      ∀ character ∈ text, isSpellingChar character = true := by
    intro word known same character member
    have letters : ∀ word ∈ ["inf", "infinity", "nan"], word.toList.all Char.isLower = true := by
      decide
    apply isSpellingChar_of_isAlpha
    apply isAlpha_of_isLower_toLower
    apply List.all_eq_true.mp (letters word known)
    rw [← same, String.toList_ofList]
    exact List.mem_map_of_mem member
  unfold readWord at read
  simp only at read
  split at read
  · rename_i infinite
    rcases infinite with same | same
    · exact small _ (by decide) same
    · exact small _ (by decide) same
  · split at read
    · rename_i same
      exact small _ (by decide) same
    · cases read

end Numeral

section Spelling

variable {text : List Char} {value : Float} (read : readNumber text = some value)
include read

/-- A text that is read as a number has no other characters. -/
theorem isSpellingChar_of_readNumber : ∀ character ∈ text, isSpellingChar character = true := by
  obtain ⟨numeral, spelled, _⟩ := Option.map_eq_some_iff.mp read
  unfold Numeral.read at spelled
  apply Numeral.accepts_of_splitSign Numeral.hasDecimals_isSpellingChar
  simp only at spelled
  split at spelled
  · rename_i decimal readAsDecimal
    exact Numeral.accepts_of_readDecimal Numeral.hasDecimals_isSpellingChar readAsDecimal
  · exact Numeral.isSpellingChar_of_readWord spelled

theorem ne_nil_of_readNumber : text ≠ [] := by
  rintro rfl
  have nothing : Numeral.read [] = none := by decide
  rw [readNumber, nothing] at read
  cases read

end Spelling

end ConicModel
