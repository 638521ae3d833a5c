import ConicModel.Proofs.Model.Reachable
import ConicModel.Proofs.Text.Split
import Mathlib.Data.List.TakeWhile

/-!
Contract: what stands around the statements of a text does not change what the text says.

Owns:
- silent lines, which hold blanks and maybe a comment, and lines that were dressed with blanks and
  maybe a comment;
- decorations of a text, which insert silent lines and dress the others, with the new place of
  every line;
- the fact that a text and a decorated one are read alike, but for the numbers of lines.

Does not own: what a line says.

The lines of a text lie between its line feeds.  A carriage return before a line feed belongs to
the line break, so the end of a line is in front of it.
-/

namespace ConicModel

namespace Text

def lines (text : String) : List (List Char) :=
  text.toList.splitOn '\n'

/-! ## Silent and dressed lines -/

/-- Whether a text holds blanks only, and maybe a comment after them. -/
def Silent (text : List Char) : Prop :=
  ∃ blanks comment, text = blanks ++ comment ∧
    (∀ character ∈ blanks, isBlank character = true) ∧ ∀ character ∈ comment.head?, character = '#'

/-- Whether `dressed` is the line with blanks before it and blanks and maybe a comment after it. -/
def Dresses (line dressed : List Char) : Prop :=
  ∃ before core after ending, line = core ++ ending ∧ (ending = [] ∨ ending = ['\r']) ∧
    dressed = before ++ (core ++ after) ∧
    (∀ character ∈ before, isBlank character = true) ∧ Silent after

theorem silent_of_blanks {blanks : List Char}
    (blank : ∀ character ∈ blanks, isBlank character = true) : Silent blanks :=
  ⟨blanks, [], (List.append_nil _).symm, blank, nofun⟩

theorem dresses_self (line : List Char) : Dresses line line :=
  ⟨[], line, [], [], (List.append_nil _).symm, .inl rfl, (List.append_nil _).symm, nofun,
    silent_of_blanks nofun⟩

end Text

namespace Model.Reader

open Text (Silent Dresses)

theorem ne_comment_of_isBlank {character : Char} (blank : Text.isBlank character = true) :
    decide (character ≠ '#') = true := by
  refine decide_eq_true ?_
  rintro rfl
  exact absurd blank (by decide)

/-- Blanks before a line are no part of what it says. -/
theorem content_blanks_append {blanks : List Char}
    (blank : ∀ character ∈ blanks, Text.isBlank character = true) (line : List Char) :
    content (blanks ++ line) = content line := by
  unfold content
  rw [List.takeWhile_append_of_pos fun character member =>
    ne_comment_of_isBlank (blank character member)]
  exact Text.trim_blanks_append blank _

/-- Nor are blanks after it, or a comment. -/
theorem content_append_silent {after : List Char} (silent : Silent after) (line : List Char) :
    content (line ++ after) = content line := by
  obtain ⟨blanks, comment, rfl, blank, marked⟩ := silent
  have kept : (blanks ++ comment).takeWhile (· ≠ '#') = blanks := by
    rw [List.takeWhile_append_of_pos fun character member =>
      ne_comment_of_isBlank (blank character member)]
    cases comment with
    | nil => rw [List.takeWhile_nil, List.append_nil]
    | cons first others =>
      rw [List.takeWhile_cons_of_neg (by simp [marked first rfl]), List.append_nil]
  unfold content
  rw [List.takeWhile_append, kept]
  split
  · next all =>
    have whole : line.takeWhile (· ≠ '#') = line :=
      (List.takeWhile_prefix _).eq_of_length all
    rw [whole]
    exact Text.trim_append_blanks blank line
  · rfl

theorem content_of_silent {line : List Char} (silent : Silent line) : content line = [] :=
  content_append_silent silent []

/-- A dressed line says what the line says. -/
theorem content_of_dresses {line dressed : List Char} (dresses : Dresses line dressed) :
    content dressed = content line := by
  obtain ⟨before, core, after, ending, rfl, ended, rfl, blank, silent⟩ := dresses
  have plain : Silent ending := by
    rcases ended with rfl | rfl
    · exact Text.silent_of_blanks nofun
    · exact Text.silent_of_blanks (by decide)
  rw [content_blanks_append blank, content_append_silent silent, content_append_silent plain]

/-! ## Decorations -/

/-- How lines come from other lines: silent ones are inserted, and the others are dressed. -/
inductive Decoration : List (List Char) → List (List Char) → Type where
  | done : Decoration [] []
  | insert {line : List Char} {lines decorated : List (List Char)} (silent : Silent line)
      (rest : Decoration lines decorated) : Decoration lines (line :: decorated)
  | keep {line dressed : List Char} {lines decorated : List (List Char)}
      (dresses : Dresses line dressed) (rest : Decoration lines decorated) :
      Decoration (line :: lines) (dressed :: decorated)

namespace Decoration

/-- The place of a line among the decorated ones, both counted from zero. -/
def place {lines decorated : List (List Char)} : Decoration lines decorated → Nat → Nat
  | done, index => index
  | insert _ rest, index => rest.place index + 1
  | keep _ _, 0 => 0
  | keep _ rest, index + 1 => rest.place index + 1

variable {lines decorated : List (List Char)}

/-- In its new place stands the line, dressed. -/
theorem dresses_at (decoration : Decoration lines decorated) {index : Nat} {line : List Char}
    (there : lines[index]? = some line) :
    ∃ dressed, decorated[decoration.place index]? = some dressed ∧ Dresses line dressed := by
  induction decoration generalizing index with
  | done => cases there
  | insert _ _ inductionHypothesis => exact inductionHypothesis there
  | keep dresses _ inductionHypothesis =>
    cases index with
    | zero =>
      cases there
      exact ⟨_, rfl, dresses⟩
    | succ index => exact inductionHypothesis there

/-! ## Two runs -/

/-- How the reading of lines and the reading of decorated ones end: in the same state, or with the
same cause on a line and on its new place. -/
inductive Alike (decoration : Decoration lines decorated) (number other : Nat) :
    EStateM.Result ParseError Reader Unit → EStateM.Result ParseError Reader Unit → Prop where
  | ok (reader : Reader) : Alike decoration number other (.ok () reader) (.ok () reader)
  | error {index here there : Nat} (within : index < lines.length) (before : here = number + index)
      (after : there = other + decoration.place index) (cause : ParseCause) (reader : Reader) :
      Alike decoration number other (.error ⟨here, cause⟩ reader) (.error ⟨there, cause⟩ reader)

variable {rest : Decoration lines decorated} {number other : Nat}
  {result result' : EStateM.Result ParseError Reader Unit}

/-- An inserted line moves the decorated lines after it. -/
theorem Alike.insert {line : List Char} {silent : Silent line}
    (alike : Alike rest number (other + 1) result result') :
    Alike (.insert silent rest) number other result result' := by
  cases alike with
  | ok reader => exact .ok reader
  | error within before after cause reader =>
    refine .error within before ?_ cause reader
    rw [place]
    omega

/-- A kept line moves the lines after it on both sides. -/
theorem Alike.keep {line dressed : List Char} {dresses : Dresses line dressed}
    (alike : Alike rest (number + 1) (other + 1) result result') :
    Alike (.keep dresses rest) number other result result' := by
  cases alike with
  | ok reader => exact .ok reader
  | @error index _ _ within before after cause reader =>
    refine .error (Nat.succ_lt_succ within) (by omega) ?_ cause reader
    rw [place]
    omega

/-- Lines and decorated lines are read alike, by every reader and from every number on. -/
theorem readLines_alike (decoration : Decoration lines decorated) (number other : Nat)
    (reader : Reader) :
    Alike decoration number other (readLines number lines reader)
      (readLines other decorated reader) := by
  induction decoration generalizing number other reader with
  | done => exact .ok reader
  | insert silent rest inductionHypothesis =>
    rw [readLines]
    dsimp only
    rw [if_pos (content_of_silent silent)]
    exact .insert (inductionHypothesis number (other + 1) reader)
  | @keep line dressed lines decorated dresses rest inductionHypothesis =>
    rw [readLines, readLines]
    dsimp only
    rw [content_of_dresses dresses]
    split
    · exact .keep (inductionHypothesis (number + 1) (other + 1) reader)
    · split
      · exact .keep (inductionHypothesis (number + 1) (other + 1) _)
      · have first : 0 < (line :: lines).length := Nat.succ_pos _
        exact .error first rfl rfl _ _

/-- Nothing inserted, and nothing added to any line. -/
def same : (lines : List (List Char)) → Decoration lines lines
  | [] => done
  | line :: lines => keep (Text.dresses_self line) (same lines)

end Decoration

/-! ## Lines after a refusal -/

section Refusal

variable {lines : List (List Char)} {number : Nat} {error : ParseError} {reader after : Reader}

/-- A refusal names one of the lines. -/
theorem exists_line_of_refused (refused : readLines number lines reader = .error error after) :
    ∃ index < lines.length, error.line = number + index := by
  have alike := (Decoration.same lines).readLines_alike number number reader
  rw [refused] at alike
  cases alike with
  | error within before _ _ _ => exact ⟨_, within, before⟩

/-- The lines after a refused one are not looked at. -/
theorem readLines_of_take {others : List (List Char)} {index : Nat}
    (refused : readLines number lines reader = .error error after)
    (there : error.line = number + index)
    (agree : others.take (index + 1) = lines.take (index + 1)) :
    readLines number others reader = .error error after := by
  induction lines generalizing others number index reader with
  | nil => cases refused
  | cons line lines inductionHypothesis =>
    match others, agree with
    | [], agree => cases agree
    | other :: others, agree =>
      rw [List.take_succ_cons, List.take_succ_cons, List.cons_eq_cons] at agree
      obtain ⟨rfl, agreeLater⟩ := agree
      -- A refusal that comes from the later lines is not on the first one.
      have later : ∀ {reader}, readLines (number + 1) lines reader = .error error after →
          readLines (number + 1) others reader = .error error after := by
        intro reader refused
        obtain ⟨place, -, named⟩ := exists_line_of_refused refused
        obtain ⟨index, rfl⟩ : ∃ before, index = before + 1 := ⟨index - 1, by omega⟩
        exact inductionHypothesis refused (by omega) agreeLater
      rw [readLines] at refused ⊢
      dsimp only at refused ⊢
      split at refused
      · next blank =>
        rw [if_pos blank]
        exact later refused
      · next filled =>
        rw [if_neg filled]
        split at refused
        · exact later refused
        · exact refused

end Refusal

end Model.Reader

/-! ## Texts -/

namespace Model

open Reader (Decoration)

/-- What stands around the statements of a text makes no difference: a decorated text is read as
the same model, and it is refused for the same cause on the new place of the line, whatever stands
after that line. -/
theorem ofText_of_decoration {text decorated : String}
    (decoration : Decoration (Text.lines text) (Text.lines decorated)) :
    (∀ model, ofText decorated = .ok model ↔ ofText text = .ok model) ∧
      ∀ error, ofText text = .error error → ∃ index line dressed,
        error.line = index + 1 ∧ (Text.lines text)[index]? = some line ∧
        (Text.lines decorated)[decoration.place index]? = some dressed ∧
        Text.Dresses line dressed ∧
        ∀ other, (Text.lines other).take (decoration.place index + 1) =
            (Text.lines decorated).take (decoration.place index + 1) →
          ofText other = .error ⟨decoration.place index + 1, error.cause⟩ := by
  have alike := decoration.readLines_alike 1 1 {}
  generalize read : Reader.readLines 1 (Text.lines text) {} = result at alike
  generalize readAgain : Reader.readLines 1 (Text.lines decorated) {} = result' at alike
  cases alike with
  | ok reader =>
    rw [ofText_of_readLines read, ofText_of_readLines readAgain]
    exact ⟨fun _ => Iff.rfl, nofun⟩
  | @error index here there within before after cause reader =>
    rw [ofText_of_refused read, ofText_of_refused readAgain]
    refine ⟨fun _ => ⟨nofun, nofun⟩, ?_⟩
    rintro error ⟨⟩
    have line := List.getElem?_eq_getElem within
    obtain ⟨dressed, found, dresses⟩ := decoration.dresses_at line
    refine ⟨index, _, dressed, before.trans (Nat.add_comm _ _), line, found, dresses, ?_⟩
    intro other agree
    have refused := Reader.readLines_of_take readAgain after agree
    rw [ofText_of_refused refused, after, Nat.add_comm]

def refusedLine (text : String) : Option Nat :=
  match ofText text with
  | .ok _ => none
  | .error error => some error.line

theorem exists_error_of_refusedLine {text : String} {line : Nat}
    (refused : refusedLine text = some line) :
    ∃ error, ofText text = .error error ∧ error.line = line := by
  unfold refusedLine at refused
  split at refused
  · cases refused
  · next error read => exact ⟨error, read, Option.some.inj refused⟩

def misspelt : String :=
  "variables: x\nx <= y\nx >= 1"

def misspeltRemarked : String :=
  "# one variable\n variables: x\t\n\nx <= y # no number\nx >= 1"

theorem ofText_of_decoration_misspelt :
    ∃ error, ofText misspelt = .error error ∧ error.line = 2 ∧
      ofText misspeltRemarked = .error ⟨4, error.cause⟩ := by
  have lines : Text.lines misspelt = ["variables: x".toList, "x <= y".toList, "x >= 1".toList] := by
    decide +kernel
  have remarked : Text.lines misspeltRemarked =
      ["# one variable".toList, " variables: x\t".toList, [], "x <= y # no number".toList,
        "x >= 1".toList] := by
    decide +kernel
  obtain ⟨decoration, moved⟩ : ∃ decoration : Decoration (Text.lines misspelt)
      (Text.lines misspeltRemarked), decoration.place 1 = 3 := by
    have remark : Text.Silent "# one variable".toList :=
      ⟨[], "# one variable".toList, rfl, nofun, by decide +kernel⟩
    have indented : Text.Dresses "variables: x".toList " variables: x\t".toList :=
      ⟨[' '], "variables: x".toList, ['\t'], [], (List.append_nil _).symm, .inl rfl,
        by decide +kernel, by decide, Text.silent_of_blanks (by decide)⟩
    have commented : Text.Dresses "x <= y".toList "x <= y # no number".toList :=
      ⟨[], "x <= y".toList, " # no number".toList, [], (List.append_nil _).symm, .inl rfl,
        by decide +kernel, nofun, [' '], "# no number".toList, by decide +kernel, by decide,
        by decide +kernel⟩
    rw [lines, remarked]
    exact ⟨.insert remark (.keep indented (.insert (Text.silent_of_blanks nofun)
      (.keep commented (.keep (Text.dresses_self _) .done)))), rfl⟩
  obtain ⟨error, refused, second⟩ :=
    exists_error_of_refusedLine (show refusedLine misspelt = some 2 by decide +kernel)
  obtain ⟨index, -, -, there, -, -, -, again⟩ := (ofText_of_decoration decoration).2 error refused
  obtain rfl : index = 1 := by omega
  have moves := again misspeltRemarked rfl
  rw [moved] at moves
  exact ⟨error, refused, second, moves⟩

end Model

end ConicModel
