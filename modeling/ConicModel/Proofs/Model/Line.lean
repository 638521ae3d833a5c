import ConicModel.Proofs.Model.Reachable
import ConicModel.Proofs.Model.Relation
import Mathlib.Data.List.TakeWhile

/-!
Contract: what one line does to what has been read so far.

Owns:
- drafts, which are readers without generation and reports, and the rule by
  which steps from draft to draft are put together;
- the classification of written lines as relations with or without a name;
- updates of one entry among others.

Does not own: which lines a model has.
-/

namespace ConicModel

/-! ## One entry among others -/

namespace Registry

variable {kind : EntityKind} {Content : Type} {earlier later : List (Entry kind Content)}
  {entry : Entry kind Content} {next : Nat}

theorem entry?_at (apart : ∀ other ∈ earlier, other.id ≠ entry.id) :
    entry? ⟨earlier ++ entry :: later, next⟩ entry.id = some entry := by
  unfold entry?
  rw [List.find?_append, List.find?_eq_none.mpr fun other member same =>
    apart other member (beq_iff_eq.mp same), Option.none_or, List.find?_cons_of_pos]
  exact beq_self_eq_true _

theorem content?_at (apart : ∀ other ∈ earlier, other.id ≠ entry.id) :
    content? ⟨earlier ++ entry :: later, next⟩ entry.id = some entry.content := by
  unfold content?
  rw [entry?_at apart]
  rfl

theorem contains_at : contains ⟨earlier ++ entry :: later, next⟩ entry.id = true := by
  unfold contains
  rw [List.any_append, List.any_cons, beq_self_eq_true, Bool.true_or, Bool.or_true]

theorem modify_at (apart : ∀ other ∈ earlier ++ later, other.id ≠ entry.id)
    (change : Entry kind Content → Entry kind Content) :
    modify ⟨earlier ++ entry :: later, next⟩ entry.id change =
      ⟨earlier ++ change entry :: later, next⟩ := by
  have kept : ∀ {others : List (Entry kind Content)}, (∀ other ∈ others, other.id ≠ entry.id) →
      (others.map fun other => if other.id == entry.id then change other else other) = others := by
    intro others different
    refine (List.map_congr_left fun other member => ?_).trans (List.map_id _)
    exact if_neg fun same => different other member (beq_iff_eq.mp same)
  rw [List.forall_mem_append] at apart
  unfold modify
  rw [List.map_append, List.map_cons, kept apart.1, kept apart.2, beq_self_eq_true]
  rfl

end Registry

namespace Model

/-! ## Drafts -/

/-- What has been read so far, without the generation and the reports. -/
structure Draft where
  vars : Registry .var (Variable Float)
  constraints : Registry .con (Constraint Float)
  objective : Option (Objective Float)
  labels : List (List Char × VariableId)

namespace Draft

def model (draft : Draft) (generation : Nat) : Model Float :=
  ⟨draft.vars, draft.constraints, draft.objective, generation⟩

def reader (draft : Draft) (generation : Nat) (events : List Event) : Reader :=
  ⟨draft.model generation, draft.labels, events⟩

end Draft

/-- A step succeeds from one draft with another, whatever else the reader holds. -/
def Takes {α : Type} (step : Reader.Step α) (before : Draft) (value : α) (after : Draft) : Prop :=
  ∀ generation events, ∃ later reports,
    step (before.reader generation events) = .ok value (after.reader later reports)

section Takes

variable {α β : Type} {before middle after : Draft}

theorem takes_pure (value : α) : Takes (pure value) before value before :=
  fun generation events => ⟨generation, events, rfl⟩

theorem takes_part (value : α) : Takes (Reader.part (.ok value)) before value before :=
  takes_pure value

theorem Takes.bind {first : Reader.Step α} {next : α → Reader.Step β} {value : α} {result : β}
    (takesFirst : Takes first before value middle)
    (takesNext : Takes (next value) middle result after) :
    Takes (first >>= next) before result after := by
  intro generation events
  obtain ⟨later, reports, done⟩ := takesFirst generation events
  obtain ⟨last, all, finished⟩ := takesNext later reports
  exact ⟨last, all, Reader.bind_eq_ok.mpr ⟨value, _, done, finished⟩⟩

theorem takes_get {next : Reader → Reader.Step β} {result : β}
    (takesNext : ∀ generation events, Takes (next (before.reader generation events)) before result
      after) : Takes (get >>= next) before result after := by
  intro generation events
  obtain ⟨later, reports, done⟩ := takesNext generation events generation events
  exact ⟨later, reports, Reader.bind_eq_ok.mpr ⟨_, _, rfl, done⟩⟩

theorem takes_perform {edit : Edit Float} {created : Option EntityRef}
    (change : ∀ generation, ∃ later,
      Change (before.model generation) edit ⟨after.model later, created⟩)
    (labels : after.labels = before.labels) :
    Takes (Reader.perform edit) before created after := by
  intro generation events
  obtain ⟨later, changed⟩ := change generation
  refine ⟨later, events ++ (before.model generation).reports edit, ?_⟩
  unfold Reader.perform Draft.reader
  dsimp only
  rw [changed.apply_eq, labels]

/-- A step may change more than the model. -/
theorem takes_modify {change : Reader → Reader}
    (changes : ∀ generation events,
      change (before.reader generation events) = after.reader generation events) :
    Takes (modify change) before () after :=
  fun generation events => ⟨generation, events,
    congrArg (EStateM.Result.ok ()) (changes generation events)⟩

/-- A free and allowed name is given. -/
theorem takes_setName (entity : EntityRef) {name : String} (valid : isValidName name = true)
    (free : ∀ generation, (before.model generation).contains entity = true ∧
      (before.model generation).holder? entity.kind name = none)
    (put : ∀ generation, touch (putName (before.model generation) entity (some name)) =
      after.model (generation + 1))
    (labels : after.labels = before.labels) :
    Takes (Reader.perform (.setName entity name)) before none after := by
  have filled : name ≠ "" := by
    rintro rfl
    cases valid
  refine takes_perform (fun generation => ⟨generation + 1, ?_⟩) labels
  obtain ⟨live, unheld⟩ := free generation
  rw [← put generation]
  exact .setName entity live name filled valid unheld

theorem takes_performed {edit : Edit Float} {created : Option EntityRef}
    (takes : Takes (Reader.perform edit) before created after) :
    Takes (do let _ ← Reader.perform edit) before () after :=
  takes.bind (takes_pure ())

end Takes

/-! ## Lines -/

/-- Lines succeed from one draft with another, whatever their numbers are. -/
def TakesLines (lines : List (List Char)) (before after : Draft) : Prop :=
  ∀ number generation events, ∃ later reports,
    Reader.readLines number lines (before.reader generation events) =
      .ok () (after.reader later reports)

theorem takesLines_nil (draft : Draft) : TakesLines [] draft draft :=
  fun _ generation events => ⟨generation, events, rfl⟩

theorem takesLines_singleton {line : List Char} {before after : Draft}
    (filled : Reader.content line ≠ [])
    (takes : Takes (Reader.statement (Reader.content line)) before () after) :
    TakesLines [line] before after := by
  intro number generation events
  obtain ⟨later, reports, done⟩ := takes generation events
  refine ⟨later, reports, ?_⟩
  rw [Reader.readLines]
  dsimp only
  rw [if_neg filled, done]
  rfl

theorem takesLines_blank {line : List Char} (draft : Draft) (blank : Reader.content line = []) :
    TakesLines [line] draft draft := by
  intro number generation events
  refine ⟨generation, events, ?_⟩
  rw [Reader.readLines]
  dsimp only
  rw [if_pos blank]
  rfl

/-- Lines are read one after the other, and numbered on. -/
theorem readLines_append : ∀ (number : Nat) (first second : List (List Char)) (reader : Reader),
    Reader.readLines number (first ++ second) reader =
      (Reader.readLines number first >>= fun _ =>
        Reader.readLines (number + first.length) second) reader
  | _, [], _, _ => rfl
  | number, line :: first, second, reader => by
    have lengths : number + (line :: first).length = number + 1 + first.length := by
      rw [List.length_cons]
      omega
    have rest := readLines_append (number + 1) first second
    show _ = EStateM.bind _ _ _
    unfold EStateM.bind
    rw [List.cons_append, Reader.readLines, Reader.readLines, lengths]
    dsimp only
    split
    · exact rest reader
    · split
      · exact rest _
      · rfl

theorem TakesLines.append {first second : List (List Char)} {before middle after : Draft}
    (takesFirst : TakesLines first before middle) (takesSecond : TakesLines second middle after) :
    TakesLines (first ++ second) before after := by
  intro number generation events
  obtain ⟨later, reports, done⟩ := takesFirst number generation events
  obtain ⟨last, all, finished⟩ := takesSecond (number + first.length) later reports
  exact ⟨last, all, (readLines_append _ _ _ _).trans
    (Reader.bind_eq_ok.mpr ⟨(), _, done, finished⟩)⟩

/-! ## Written relations as lines -/

/-- A tight line without a comment says what it is. -/
theorem content_eq {line : List Char} (tight : Text.Tight line) (noComment : '#' ∉ line) :
    Reader.content line = line := by
  have kept : line.takeWhile (· ≠ '#') = line := by
    refine List.takeWhile_eq_self_iff.mpr fun character member => decide_eq_true ?_
    rintro rfl
    exact noComment member
  unfold Reader.content
  rw [kept, tight.trim_eq]

/-- A line that does not begin with a keyword and a colon relates two sides. -/
theorem statement_eq {line : List Char}
    (plain : ∀ keyword ∈ ["variables:", "minobjective:", "maxobjective:"],
      ¬ keyword.toList <+: line) : Reader.statement line = Reader.relate line := by
  have noVariables := Text.afterLiteral_eq_none (plain "variables:" (by decide))
  have noMinimum := Text.afterLiteral_eq_none (plain "minobjective:" (by decide))
  have noMaximum := Text.afterLiteral_eq_none (plain "maxobjective:" (by decide))
  unfold Reader.statement
  rw [noVariables, noMinimum, noMaximum]

/-- Each keyword ends with a colon. -/
theorem colon_of_keyword {keyword : String}
    (member : keyword ∈ ["variables:", "minobjective:", "maxobjective:"]) {line : List Char}
    (start : keyword.toList <+: line) : ':' ∈ line := by
  have colon : ∀ keyword ∈ ["variables:", "minobjective:", "maxobjective:"],
      ':' ∈ keyword.toList := by decide
  exact start.subset (colon keyword member)

/-- What stands before the first colon is determined by the text. -/
theorem eq_of_colon {left right rest : List Char} (noColonLeft : ':' ∉ left)
    (noColonRight : ':' ∉ right) (start : left ++ [':'] <+: right ++ ':' :: rest) :
    left = right := by
  obtain ⟨after, parts⟩ := start
  have cutLeft : Text.cut [':'] (left ++ ([':'] ++ after)) = some (left, after) :=
    Text.cut_of_not_mem noColonLeft after
  have cutRight : Text.cut [':'] (right ++ ([':'] ++ rest)) = some (right, rest) :=
    Text.cut_of_not_mem noColonRight rest
  rw [List.singleton_append] at cutRight
  rw [← List.append_assoc, parts, cutRight] at cutLeft
  cases cutLeft
  rfl

section Written

variable {line : List Char} (written : Written line)
include written

theorem Written.no_comment : '#' ∉ line := Text.not_mem_of_class written.chars rfl

theorem Written.no_colon : ':' ∉ line := Text.not_mem_of_class written.chars rfl

theorem Written.no_break : '\n' ∉ line := Text.not_mem_of_class written.chars rfl

/-- A written relation by itself is a relation without a name. -/
theorem Written.unnamed :
    Reader.content line = line ∧ Reader.statement line = Reader.relate line ∧
      Reader.splitName line = (none, line) := by
  refine ⟨content_eq written.tight written.no_comment, statement_eq fun keyword member start =>
    written.no_colon (colon_of_keyword member start), ?_⟩
  unfold Reader.splitName
  rw [Text.cut_none_of_not_mem List.mem_cons_self written.no_colon]

/-- A written relation after a name and a colon is a relation with that name. -/
theorem Written.named {name : String} (valid : isValidName name = true) :
    Reader.content (name.toList ++ ':' :: ' ' :: line) = name.toList ++ ':' :: ' ' :: line ∧
      Reader.statement (name.toList ++ ':' :: ' ' :: line) =
        Reader.relate (name.toList ++ ':' :: ' ' :: line) ∧
      Reader.splitName (name.toList ++ ':' :: ' ' :: line) = (some name.toList, line) := by
  obtain ⟨unreserved, first, others, spelled, _, letters⟩ := valid_name valid
  have filled : name.toList ≠ [] := by
    rw [spelled]
    exact List.cons_ne_nil _ _
  have token : Text.Token name.toList := ⟨filled, fun character member =>
    not_isBlank_of_isFactorChar (isFactorChar_of_isNameChar (letters character member))⟩
  have noColon : ':' ∉ name.toList := Text.not_mem_of_class letters rfl
  refine ⟨content_eq ?_ ?_, statement_eq fun keyword member start => ?_, ?_⟩
  · have parts := token.tight.append written.tight [':', ' '] filled written.filled
    exact parts
  · exact List.not_mem_append (Text.not_mem_of_class letters rfl)
      (List.not_mem_cons_of_ne_of_not_mem (by decide)
        (List.not_mem_cons_of_ne_of_not_mem (by decide) written.no_comment))
  · have reserved : ∀ keyword ∈ ["variables:", "minobjective:", "maxobjective:"],
        ∃ word, keyword.toList = word ++ [':'] ∧ ':' ∉ word ∧
          reservedNames.contains (String.ofList word) = true := by
      intro keyword member
      simp only [List.mem_cons, List.not_mem_nil, or_false] at member
      rcases member with rfl | rfl | rfl
      · exact ⟨"variables".toList, by decide, by decide, by decide⟩
      · exact ⟨"minobjective".toList, by decide, by decide, by decide⟩
      · exact ⟨"maxobjective".toList, by decide, by decide, by decide⟩
    obtain ⟨word, ends, noColonWord, isReserved⟩ := reserved keyword member
    rw [ends] at start
    rw [eq_of_colon noColonWord noColon start, String.ofList_toList, unreserved]
      at isReserved
    cases isReserved
  · have found : Text.cut [':'] (name.toList ++ ([':'] ++ ' ' :: line)) =
        some (name.toList, ' ' :: line) := Text.cut_of_not_mem noColon _
    unfold Reader.splitName
    rw [List.singleton_append] at found
    rw [found]
    dsimp only
    rw [token.tight.trim_eq, written.tight.trim_blank_cons]

end Written

end Model

end ConicModel
