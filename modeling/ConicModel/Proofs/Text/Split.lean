import ConicModel.Text.Split
import Mathlib.Data.List.Chain
import Mathlib.Data.List.TakeWhile

/-!
Contract: texts that were put together come apart again.

Owns:
- tight texts, which have no blank at either end, and what trimming makes of
  them;
- words, cuts and pieces of texts that were joined with the separator at hand.

Does not own: which texts are joined.
-/

namespace ConicModel.Text

section Decision

variable {property : Char → Prop} [DecidablePred property]

-- What is said of the characters of a text is decided by the text, not by a walk
-- through all characters.
instance (priority := 2000) decidableOfList (text : List Char) :
    Decidable (∀ character ∈ text, property character) :=
  List.decidableBAll property text

instance (priority := 2000) decidableOfOption (text : Option Char) :
    Decidable (∀ character ∈ text, property character) :=
  Option.decidableForallMem text

end Decision

/-! ## Trimming -/

/-- No blank at the start or at the end. -/
structure Tight (text : List Char) : Prop where
  start : ∀ character ∈ text.head?, isBlank character = false
  stop : ∀ character ∈ text.getLast?, isBlank character = false

theorem tight_of_noBlank {text : List Char}
    (solid : ∀ character ∈ text, isBlank character = false) :
    Tight text :=
  ⟨fun character first => solid character (List.mem_of_mem_head? first),
    fun character last => solid character (List.mem_of_mem_getLast? last)⟩

/-- Only the ends of a text matter. -/
theorem Tight.append {left right : List Char} (tightLeft : Tight left) (tightRight : Tight right)
    (middle : List Char) (filledLeft : left ≠ []) (filledRight : right ≠ []) :
    Tight (left ++ (middle ++ right)) where
  start := by
    rw [List.head?_append_of_ne_nil _ filledLeft]
    exact tightLeft.start
  stop := by
    rw [← List.append_assoc, List.getLast?_append_of_ne_nil _ filledRight]
    exact tightRight.stop

theorem dropWhile_blanks {rest : List Char}
    (stop : ∀ character ∈ rest.head?, isBlank character = false) :
    ∀ {blanks : List Char}, (∀ character ∈ blanks, isBlank character = true) →
      (blanks ++ rest).dropWhile isBlank = rest
  | [], _ => by
    cases rest with
    | nil => rfl
    | cons first others => exact List.dropWhile_cons_of_neg (by simp [stop first rfl])
  | first :: blanks, blank => by
    rw [List.cons_append, List.dropWhile_cons_of_pos (blank first List.mem_cons_self)]
    exact dropWhile_blanks stop fun character member =>
      blank character (List.mem_cons_of_mem _ member)

/-- Trimming takes away the blanks around a tight text, and nothing more. -/
theorem trim_padded {before text after : List Char} (tight : Tight text) (filled : text ≠ [])
    (blankBefore : ∀ character ∈ before, isBlank character = true)
    (blankAfter : ∀ character ∈ after, isBlank character = true) :
    trim (before ++ (text ++ after)) = text := by
  have start : ∀ character ∈ (text ++ after).head?, isBlank character = false := by
    rw [List.head?_append_of_ne_nil _ filled]
    exact tight.start
  have stop : ∀ character ∈ text.reverse.head?, isBlank character = false := by
    rw [List.head?_reverse]
    exact tight.stop
  unfold trim trimStart trimEnd
  rw [dropWhile_blanks start blankBefore, List.reverse_append, dropWhile_blanks stop,
    List.reverse_reverse]
  exact fun character member => blankAfter character (List.mem_reverse.mp member)

theorem trim_blanks_append {blanks : List Char}
    (blank : ∀ character ∈ blanks, isBlank character = true) (text : List Char) :
    trim (blanks ++ text) = trim text := by
  unfold trim trimStart
  rw [List.dropWhile_append_of_pos blank]

theorem trim_append_blanks {blanks : List Char}
    (blank : ∀ character ∈ blanks, isBlank character = true) (text : List Char) :
    trim (text ++ blanks) = trim text := by
  have nothing : blanks.dropWhile isBlank = [] := List.dropWhile_eq_nil_iff.mpr blank
  unfold trim trimStart
  rw [List.dropWhile_append]
  split
  · next onlyBlanks => rw [nothing, List.isEmpty_iff.mp onlyBlanks]
  · unfold trimEnd
    rw [List.reverse_append, List.dropWhile_append_of_pos]
    exact fun character member => blank character (List.mem_reverse.mp member)

theorem Tight.trim_eq {text : List Char} (tight : Tight text) : trim text = text := by
  by_cases filled : text = []
  · rw [filled]
    rfl
  · have padded : trim ([] ++ (text ++ [])) = text := trim_padded tight filled nofun nofun
    rwa [List.append_nil] at padded

theorem Tight.trim_blank_cons {text : List Char} (tight : Tight text) : trim (' ' :: text) = text :=
  tight.trim_eq

theorem Tight.trim_append_blank {text : List Char} (tight : Tight text) (filled : text ≠ []) :
    trim (text ++ [' ']) = text := by
  have padded : trim ([] ++ (text ++ [' '])) = text := trim_padded tight filled nofun (by decide)
  exact padded

/-! ## Words -/

structure Token (text : List Char) : Prop where
  filled : text ≠ []
  solid : ∀ character ∈ text, isBlank character = false

theorem Token.tight {text : List Char} (token : Token text) : Tight text :=
  tight_of_noBlank token.solid

theorem Token.words_eq {text : List Char} (token : Token text) : words text = [text] := by
  unfold words
  rw [List.splitOnP_eq_singleton token.solid]
  exact List.filter_cons_of_pos (decide_eq_true token.filled)

theorem Token.words_append {text : List Char} (token : Token text) (rest : List Char) :
    words (text ++ ' ' :: rest) = text :: words rest := by
  unfold words
  rw [List.splitOnP_append_cons_of_forall_mem token.solid ' ' rfl]
  exact List.filter_cons_of_pos (decide_eq_true token.filled)

/-! ## Literals -/

theorem afterLiteral_append : ∀ literal rest : List Char,
    afterLiteral literal (literal ++ rest) = some rest
  | [], _ => rfl
  | expected :: literal, rest => by
    rw [List.cons_append, afterLiteral, if_pos rfl]
    exact afterLiteral_append literal rest

theorem eq_append_of_afterLiteral : ∀ {literal text rest : List Char},
    afterLiteral literal text = some rest → text = literal ++ rest
  | [], _, _, found => by
    cases found
    rfl
  | _ :: _, [], _, found => nomatch found
  | expected :: literal, character :: text, rest, found => by
    rw [afterLiteral] at found
    split at found
    · rename_i same
      rw [same, eq_append_of_afterLiteral found, List.cons_append]
    · cases found

theorem afterLiteral_eq_none {literal text : List Char} (different : ¬ literal <+: text) :
    afterLiteral literal text = none := by
  cases found : afterLiteral literal text with
  | none => rfl
  | some rest => exact absurd ⟨rest, (eq_append_of_afterLiteral found).symm⟩ different

theorem beforeLast_append (last : Char) (text : List Char) :
    beforeLast last (text ++ [last]) = some text := by
  unfold beforeLast
  rw [List.getLast?_concat, if_pos rfl, List.dropLast_concat]

/-! ## Cuts -/

theorem cut_at (literal right : List Char) (filled : literal ≠ []) :
    cut literal (literal ++ right) = some ([], right) := by
  cases literal with
  | nil => exact absurd rfl filled
  | cons first literal =>
    rw [List.cons_append, cut, ← List.cons_append, afterLiteral_append]

/-- A place where the literal does not stand is passed over. -/
theorem cut_cons {literal text : List Char} {character : Char}
    (different : ¬ literal <+: character :: text) :
    cut literal (character :: text) =
      (cut literal text).map fun (before, after) => (character :: before, after) := by
  rw [cut, afterLiteral_eq_none different]

theorem cut_eq_some {literal right : List Char} (filled : literal ≠ []) :
    ∀ {left : List Char},
      (∀ before after, left = before ++ after → after ≠ [] →
        ¬ literal <+: after ++ (literal ++ right)) →
      cut literal (left ++ (literal ++ right)) = some (left, right)
  | [], _ => cut_at literal right filled
  | character :: left, early => by
    have here := early [] (character :: left) rfl (List.cons_ne_nil _ _)
    rw [List.cons_append] at here
    rw [List.cons_append, cut_cons here, cut_eq_some filled fun before after parts kept =>
      early (character :: before) after (congrArg (character :: ·) parts) kept]
    rfl

theorem cut_eq_none {literal : List Char} (filled : literal ≠ []) :
    ∀ {text : List Char}, ¬ literal <:+: text → cut literal text = none
  | [], absent => by
    rw [cut, afterLiteral_eq_none fun start => absent start.isInfix]
    rfl
  | character :: text, absent => by
    rw [cut_cons fun start => absent start.isInfix,
      cut_eq_none filled fun later => absent (List.infix_cons later)]
    rfl

/-- A literal is found where its first character first occurs. -/
theorem cut_of_not_mem {first : Char} {literal left : List Char} (absent : first ∉ left)
    (right : List Char) :
    cut (first :: literal) (left ++ (first :: literal ++ right)) = some (left, right) := by
  refine cut_eq_some (List.cons_ne_nil _ _) fun before after parts kept start => ?_
  cases after with
  | nil => exact kept rfl
  | cons character after =>
    have same := (List.cons_prefix_cons.mp start).1
    exact absent (parts ▸ List.mem_append_right _ (same ▸ List.mem_cons_self))

/-- A literal is not found in a text that lacks one of its characters. -/
theorem cut_none_of_not_mem {literal text : List Char} {character : Char}
    (member : character ∈ literal) (absent : character ∉ text) : cut literal text = none :=
  cut_eq_none (List.ne_nil_of_mem member) fun within => absent (within.subset member)

/-! ## The word between a function and its set -/

/-- No blank is followed by the first letter of the word `in`. -/
def Guarded (text : List Char) : Prop :=
  text.IsChain fun character next => character = ' ' → next ≠ 'i'

theorem guarded_of_not_mem {text : List Char} (absent : ' ' ∉ text) : Guarded text := by
  induction text with
  | nil => exact .nil
  | cons first text inductionHypothesis =>
    obtain ⟨different, rest⟩ := List.ne_and_not_mem_of_not_mem_cons absent
    refine List.isChain_cons.mpr ⟨fun next _ blank => ?_, inductionHypothesis rest⟩
    exact absurd blank.symm different

/-- Guarded texts may be put together where the second one does not begin with the
letter. -/
theorem Guarded.append {left right : List Char} (guardedLeft : Guarded left)
    (guardedRight : Guarded right) (seam : ∀ next ∈ right.head?, next ≠ 'i') :
    Guarded (left ++ right) :=
  List.IsChain.append guardedLeft guardedRight fun _ _ next first _ => seam next first

/-- In a guarded text that goes on with a blank or ends, the word does not begin. -/
theorem Guarded.not_membership {text rest : List Char} (guarded : Guarded text) (filled : text ≠ [])
    (next : ∀ character ∈ rest.head?, character ≠ 'i') :
    ¬ [' ', 'i', 'n', ' '] <+: text ++ rest := by
  rintro ⟨after, parts⟩
  match text, filled with
  | [first], _ =>
    rw [List.singleton_append] at parts
    injection parts with _ parts
    rw [← parts] at next
    exact next 'i' rfl rfl
  | first :: second :: text, _ =>
    injection parts with same parts
    injection parts with letter _
    exact (List.isChain_cons_cons.mp guarded).1 same.symm letter.symm

/-- The word is found after a guarded text. -/
theorem Guarded.cut_membership {left : List Char} (guarded : Guarded left) (right : List Char) :
    cut [' ', 'i', 'n', ' '] (left ++ ([' ', 'i', 'n', ' '] ++ right)) = some (left, right) := by
  refine cut_eq_some (List.cons_ne_nil _ _) fun before after parts kept => ?_
  rw [parts] at guarded
  have rest : Guarded after := List.IsChain.right_of_append guarded
  refine rest.not_membership kept fun character first => ?_
  cases first
  decide

/-- The word is not found if the last blank of a guarded text comes before a text
without blanks. -/
theorem Guarded.cut_membership_none : ∀ {left token : List Char}, Guarded left → ' ' ∉ token →
    cut [' ', 'i', 'n', ' '] (left ++ (' ' :: token)) = none
  | [], token, _, absent => by
    have start : ¬ [' ', 'i', 'n', ' '] <+: ' ' :: token := fun start => by
      have within := (List.cons_prefix_cons.mp start).2.subset
      exact absent (within (by decide))
    have blank : ' ' ∈ [' ', 'i', 'n', ' '] := List.mem_cons_self
    rw [List.nil_append, cut_cons start, cut_none_of_not_mem blank absent]
    rfl
  | character :: left, token, guarded, absent => by
    have next : ∀ next ∈ (' ' :: token).head?, next ≠ 'i' := by
      rintro next ⟨⟩
      decide
    have here := guarded.not_membership (List.cons_ne_nil _ _) next
    have rest : Guarded left := List.IsChain.tail guarded
    rw [List.cons_append] at *
    rw [cut_cons here, rest.cut_membership_none absent]
    rfl

/-! ## Pieces -/

/-- Pieces that each begin with the separator, after a first one. -/
theorem splitOn_led {separator : Char} {first : List Char} {others : List (List Char)}
    (absentFirst : separator ∉ first) (absent : ∀ piece ∈ others, separator ∉ piece) :
    (first ++ others.flatMap fun piece => separator :: piece).splitOn separator =
      first :: others := by
  induction others generalizing first with
  | nil =>
    rw [List.flatMap_nil, List.append_nil]
    exact List.splitOn_eq_singleton absentFirst
  | cons piece others inductionHypothesis =>
    obtain ⟨absentPiece, absentOthers⟩ := List.forall_mem_cons.mp absent
    rw [List.flatMap_cons, List.cons_append, List.splitOn_append_cons_self_of_not_mem absentFirst,
      inductionHypothesis absentPiece absentOthers]

/-- Pieces that each end with the separator. -/
theorem splitOn_ended {separator : Char} :
    ∀ {pieces : List (List Char)}, (∀ piece ∈ pieces, separator ∉ piece) →
      (pieces.flatMap fun piece => piece ++ [separator]).splitOn separator = pieces ++ [[]]
  | [], _ => List.splitOn_nil separator
  | piece :: pieces, absent => by
    obtain ⟨absentPiece, absentOthers⟩ := List.forall_mem_cons.mp absent
    rw [List.flatMap_cons, List.append_assoc, List.singleton_append,
      List.splitOn_append_cons_self_of_not_mem absentPiece, splitOn_ended absentOthers]
    rfl

/-- A blank at the start of pieces between commas makes no difference. -/
theorem commaPieces_blank_cons (text : List Char) :
    commaPieces (' ' :: text) = commaPieces text := by
  unfold commaPieces
  rw [List.splitOn_cons_eq_if_modifyHead, if_neg (by decide)]
  cases pieces : text.splitOn ',' with
  | nil => exact absurd pieces (List.splitOn_ne_nil _ _)
  | cons first others => rfl

/-- Tight pieces come back from between commas. -/
theorem commaPieces_join : ∀ {pieces : List (List Char)}, pieces ≠ [] →
    (∀ piece ∈ pieces, Tight piece ∧ ',' ∉ piece) →
    commaPieces (join [',', ' '] pieces) = pieces
  | [piece], _, good => by
    obtain ⟨tight, absent⟩ := good piece List.mem_cons_self
    rw [join, commaPieces, List.splitOn_eq_singleton absent, List.map_singleton, tight.trim_eq]
  | piece :: next :: others, _, good => by
    obtain ⟨⟨tight, absent⟩, goodOthers⟩ := List.forall_mem_cons.mp good
    have rest := commaPieces_join (List.cons_ne_nil next others) goodOthers
    have split : commaPieces (piece ++ ',' :: (' ' :: join [',', ' '] (next :: others))) =
        trim piece :: commaPieces (' ' :: join [',', ' '] (next :: others)) := by
      unfold commaPieces
      rw [List.splitOn_append_cons_self_of_not_mem absent, List.map_cons]
    rw [commaPieces_blank_cons, rest, tight.trim_eq] at split
    rw [join, List.append_assoc]
    · exact split
    · exact List.cons_ne_nil next others

theorem tight_join : ∀ {pieces : List (List Char)}, pieces ≠ [] →
    (∀ piece ∈ pieces, Tight piece ∧ piece ≠ []) →
    Tight (join [',', ' '] pieces) ∧ join [',', ' '] pieces ≠ []
  | [piece], _, good => good piece List.mem_cons_self
  | piece :: next :: others, _, good => by
    obtain ⟨⟨tight, filled⟩, goodOthers⟩ := List.forall_mem_cons.mp good
    obtain ⟨tightRest, filledRest⟩ := tight_join (List.cons_ne_nil next others) goodOthers
    rw [join, List.append_assoc]
    · exact ⟨tight.append tightRest _ filled filledRest,
        List.append_ne_nil_of_left_ne_nil filled _⟩
    · exact List.cons_ne_nil next others

/-- Tight nonempty pieces come back, even if there are none. -/
theorem filledPieces_join {pieces : List (List Char)}
    (good : ∀ piece ∈ pieces, Tight piece ∧ ',' ∉ piece) (filled : ∀ piece ∈ pieces, piece ≠ []) :
    filledPieces (join [',', ' '] pieces) = pieces := by
  unfold filledPieces
  by_cases none : pieces = []
  · rw [none]
    decide
  · rw [commaPieces_join none good]
    exact List.filter_eq_self.mpr fun piece member => decide_eq_true (filled piece member)

end ConicModel.Text
