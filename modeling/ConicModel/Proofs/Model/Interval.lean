import ConicModel.Proofs.Decimal.Spelling
import ConicModel.Proofs.Float.Arithmetic
import ConicModel.Proofs.Model.Labelling
import ConicModel.Proofs.Model.Line
import ConicModel.Proofs.Session.Action

/-!
Contract: the line that puts a variable into an interval.

Owns:
- how the line is read, in every spelling of its two numbers;
- what one update of the bounds of a variable does to a reader;
- the exact condition under which the line is accepted, and what it then leaves;
- an interval that is refused for a bound that it would have replaced.

Does not own: the other sets that a variable may be put into.

The line sets the lower end first and checks it against the upper bound that is
there, so an interval is refused if it lies above that bound.
-/

namespace ConicModel

/-! ## One entry -/

namespace Registry

variable {kind : EntityKind} {Content : Type} {registry : Registry kind Content}
  {id : EntityId kind}

theorem setContent_setContent (first second : Content) :
    (registry.setContent id first).setContent id second = registry.setContent id second := by
  unfold setContent modify
  rw [List.map_map]
  congr 1
  apply List.map_congr_left
  intro entry _
  by_cases here : entry.id = id <;> simp [here]

theorem content?_setContent {old : Content} (present : registry.content? id = some old)
    (new : Content) : (registry.setContent id new).content? id = some new := by
  have find : ∀ entries : List (Entry kind Content),
      (entries.map fun entry =>
        if entry.id == id then { entry with content := new } else entry).find?
          (fun entry => entry.id == id) =
      (entries.find? fun entry => entry.id == id).map fun entry =>
        { entry with content := new } := by
    intro entries
    induction entries with
    | nil => rfl
    | cons entry entries inductionHypothesis =>
      by_cases here : entry.id = id
      · simp [here]
      · simpa [here] using inductionHypothesis
  obtain ⟨entry, found, _⟩ := Option.map_eq_some_iff.mp present
  unfold content? entry? setContent modify
  rw [find]
  unfold entry? at found
  rw [found]
  rfl

end Registry

namespace Model

/-! ## How the line is read -/

/-- The line `label in Interval(lower, upper)`. -/
def intervalLine (label lower upper : List Char) : List Char :=
  related label membership (enclosed "Interval".toList [lower, upper])

theorem isFactorChar_of_isSpellingChar {character : Char}
    (spelling : isSpellingChar character = true) : isFactorChar character = true := by
  unfold isSpellingChar at spelling
  rcases (Bool.or_eq_true _ _).mp spelling with letter | sign
  · apply isFactorChar_of_isNameChar
    simp [isNameChar, letter]
  · have signs : ∀ sign ∈ ['.', '+', '-'], isFactorChar sign = true := by decide
    exact signs character (List.contains_iff_mem.mp sign)

theorem token_of_readNumber {text : List Char} {value : Float}
    (read : readNumber text = some value) : Text.Token text where
  filled := ne_nil_of_readNumber read
  solid character member := not_isBlank_of_isFactorChar
    (isFactorChar_of_isSpellingChar (isSpellingChar_of_readNumber read character member))

theorem Spelled.side {label : List Char} (spelled : Spelled label) : Side isSideChar label := by
  have chars : ∀ character ∈ label, isFactorChar character = true :=
    fun character member => isFactorChar_of_isNameChar (spelled.chars character member)
  exact ((Side.of_token spelled.token chars rfl).mono isExprChar_of_isFactorChar).mono
    isSideChar_of_isExprChar

section Reading

variable {label lowerText upperText : List Char} {lower upper : Float} (spelled : Spelled label)
  (readLower : readNumber lowerText = some lower) (readUpper : readNumber upperText = some upper)

include readLower readUpper in
theorem set_interval :
    Reader.set (enclosed "Interval".toList [lowerText, upperText]) =
      .ok (.interval lower upper) := by
  have token : Text.Token "Interval".toList := ⟨by decide, by decide⟩
  have apart : ∀ {text : List Char} {value : Float}, readNumber text = some value → ',' ∉ text :=
    fun read => Text.not_mem_of_class (isSpellingChar_of_readNumber read) rfl
  have named : Reader.namedSet "Interval".toList [lowerText, upperText] = (do
      let lower ← Reader.number lowerText
      let upper ← Reader.number upperText
      return .interval lower upper) := rfl
  have first : Reader.number lowerText = .ok lower := by simp [Reader.number, readLower]
  have second : Reader.number upperText = .ok upper := by simp [Reader.number, readUpper]
  rw [set_enclosed token (by decide), named, first, second]
  · rfl
  · simpa using ⟨token_of_readNumber readLower, token_of_readNumber readUpper⟩
  · simpa using ⟨apart readLower, apart readUpper⟩

include spelled readLower readUpper

theorem written_intervalLine : Written (intervalLine label lowerText upperText) := by
  have token : Text.Token "Interval".toList := ⟨by decide, by decide⟩
  have letters : ∀ character ∈ "Interval".toList, isLineChar character = true := by decide
  have numbers : ∀ {text : List Char} {value : Float}, readNumber text = some value →
      ∀ character ∈ text, isLineChar character = true := fun read character member =>
    isLineChar_of_isFactorChar
      (isFactorChar_of_isSpellingChar (isSpellingChar_of_readNumber read character member))
  refine written_related spelled.side (by decide) (tight_enclosed token _) ?_ ?_
  · simp [enclosed]
  · unfold enclosed
    rw [List.forall_mem_append, List.forall_mem_cons, List.forall_mem_append]
    refine ⟨letters, rfl, isLineChar_join ?_, by decide⟩
    simpa using ⟨numbers readLower, numbers readUpper⟩

theorem statement_intervalLine {reader : Reader} {id : VariableId}
    (known : Reader.lookup reader.labels label = some id) :
    Reader.content (intervalLine label lowerText upperText) =
        intervalLine label lowerText upperText ∧
      Reader.statement (intervalLine label lowerText upperText) reader =
        Reader.restrict id (.interval lower upper) reader := by
  have token : Text.Token "Interval".toList := ⟨by decide, by decide⟩
  obtain ⟨said, related, unnamed⟩ :=
    (written_intervalLine spelled readLower readUpper).unnamed
  have sides : Reader.relation (intervalLine label lowerText upperText) =
      .ok (label, .interval lower upper) :=
    relation_membership spelled.side (tight_enclosed token _) (set_interval readLower readUpper)
  refine ⟨said, ?_⟩
  rw [related]
  unfold Reader.relate
  rw [unnamed]
  dsimp only
  have read : Reader.part (.ok (label, .interval lower upper) :
      Except ParseCause (List Char × ConstraintSet Float)) reader = .ok _ reader := rfl
  rw [sides, bind_of_ok read]
  dsimp only
  rw [get_bind, known]

end Reading

/-! ## One update -/

/-- Ends that are defined and in order; there may be no upper one. -/
def EndsFit (lower : Float) (upper : Option Float) : Prop :=
  lower.isNaN = false ∧ ∀ value, upper = some value → value.isNaN = false ∧ lower ≤ value

theorem endsFit_iff {lower : Float} {upper : Option Float} :
    EndsFit lower upper ↔
      ((⟨some lower, upper, none⟩ : Bounds Float).hasUndefined ||
        (⟨some lower, upper, none⟩ : Bounds Float).isCrossed) = false := by
  have above : ∀ upper : Float, ExtendedNumber.exceeds lower upper = decide (upper < lower) :=
    fun _ => rfl
  have undefined : ∀ value : Float, ExtendedNumber.isUndefined value = value.isNaN := fun _ => rfl
  cases upper with
  | none => simp [EndsFit, Bounds.hasUndefined, Bounds.isCrossed, undefined]
  | some upper =>
    simp only [EndsFit, Bounds.hasUndefined, Bounds.isCrossed, Option.any_some, Option.any_none,
      undefined, above, Bool.or_eq_false_iff, decide_eq_false_iff_not, and_true,
      Option.some.injEq, forall_eq']
    constructor
    · rintro ⟨lowerDefined, upperDefined, atMost⟩
      exact ⟨⟨lowerDefined, upperDefined⟩, Binary64.not_lt_of_le atMost⟩
    · rintro ⟨⟨lowerDefined, upperDefined⟩, inOrder⟩
      exact ⟨lowerDefined, upperDefined, Binary64.le_of_not_lt lowerDefined upperDefined inOrder⟩

/-- Bounds with a lower end are accepted if the ends fit. -/
theorem checkBounds_of_endsFit (id : VariableId) {lower : Float} {upper : Option Float}
    (fit : EndsFit lower upper) : checkBounds id ⟨some lower, upper, none⟩ = .ok () := by
  have consistent := endsFit_iff.mp fit
  rw [Bool.or_eq_false_iff] at consistent
  exact checkBounds_eq_ok.mpr ⟨consistent.1, rfl, consistent.2⟩

/-- Bounds with a lower end are refused with both ends if these do not fit. -/
theorem checkBounds_of_not_endsFit (id : VariableId) {lower : Float} {upper : Option Float}
    (misfit : ¬ EndsFit lower upper) :
    checkBounds id ⟨some lower, upper, none⟩ = .error (.invalidBounds (some lower) upper) := by
  rw [endsFit_iff, Bool.not_eq_false, Bool.or_eq_true] at misfit
  unfold checkBounds
  rcases misfit with undefined | crossed
  · rw [if_pos undefined]
  · simp [crossed, Bounds.isFixed]

theorem reports_boundsUpdate {edit : Edit Float} {id : VariableId}
    {update : Bounds Float → Except BoundConflict (Bounds Float)}
    (asked : edit.boundsUpdate? = some (id, update)) (model : Model Float) :
    model.reports edit = [] := by
  cases edit <;> cases asked <;> rfl

namespace Reader

def withBounds (reader : Reader) (id : VariableId) (found : Variable Float)
    (bounds : Bounds Float) : Reader :=
  { reader with
    model := touch { reader.model with
      vars := reader.model.vars.setContent id { found with bounds := bounds } } }

section Update

variable {reader : Reader} {id : VariableId} {found : Variable Float}
  (present : reader.model.vars.content? id = some found)
include present

/-- Step lemma: an update puts the new bounds in place, unless they are refused. -/
theorem perform_boundsUpdate {edit : Edit Float}
    {update : Bounds Float → Except BoundConflict (Bounds Float)}
    (asked : edit.boundsUpdate? = some (id, update)) {bounds : Bounds Float}
    (updated : update found.bounds = .ok bounds) :
    perform edit reader =
      match checkBounds id bounds with
      | .ok () => .ok none (reader.withBounds id found bounds)
      | .error cause => .error (.refused cause) reader := by
  have applied : reader.model.apply edit = (do
      checkBounds id bounds
      return ⟨(reader.withBounds id found bounds).model, none⟩) := by
    rw [apply_boundsUpdate asked, Model.updateBounds, getVariable_eq_ok.mpr present]
    simp only [bind, Except.bind]
    rw [updated]
    rfl
  unfold perform
  rw [applied, reports_boundsUpdate asked]
  cases checked : checkBounds id bounds with
  | ok accepted => simp [withBounds, bind, Except.bind, pure, Except.pure]
  | error cause => simp [bind, Except.bind]

theorem content?_withBounds (bounds : Bounds Float) :
    (reader.withBounds id found bounds).model.vars.content? id =
      some { found with bounds := bounds } :=
  Registry.content?_setContent present _

end Update

/-- Of two replacements the last one counts, but both count as changes. -/
theorem withBounds_withBounds (reader : Reader) (id : VariableId) (found : Variable Float)
    (first second : Bounds Float) :
    (reader.withBounds id found first).withBounds id { found with bounds := first } second =
      { reader with
        model := { reader.model with
          vars := reader.model.vars.setContent id { found with bounds := second }
          generation := reader.model.generation + 2 } } := by
  simp [withBounds, touch, Registry.setContent_setContent]

end Reader

/-! ## Two updates -/

section Restriction

variable {reader : Reader} {id : VariableId} {found : Variable Float}
  (present : reader.model.vars.content? id = some found) (loose : found.bounds.isFixed = false)
include present loose

/-- The lower end goes next to the upper bound that is there. -/
theorem perform_setLowerBound (lower : Float) :
    Reader.perform (.setLowerBound id lower) reader =
      match checkBounds id ⟨some lower, found.bounds.upper, none⟩ with
      | .ok () => .ok none (reader.withBounds id found ⟨some lower, found.bounds.upper, none⟩)
      | .error cause => .error (.refused cause) reader := by
  have unfixed : found.bounds.fixed = none := by simpa [Bounds.isFixed] using loose
  exact Reader.perform_boundsUpdate present rfl (by simp [withLower, loose, unfixed])

omit loose in
/-- The upper end goes next to the lower one that was set before. -/
theorem perform_setUpperBound (lower : Float) (old : Option Float) (upper : Float) :
    Reader.perform (.setUpperBound id upper) (reader.withBounds id found ⟨some lower, old, none⟩) =
      match checkBounds id ⟨some lower, some upper, none⟩ with
      | .ok () => .ok none ((reader.withBounds id found ⟨some lower, old, none⟩).withBounds id
          { found with bounds := ⟨some lower, old, none⟩ } ⟨some lower, some upper, none⟩)
      | .error cause =>
        .error (.refused cause) (reader.withBounds id found ⟨some lower, old, none⟩) :=
  Reader.perform_boundsUpdate (Reader.content?_withBounds present _) rfl rfl

/-- An interval whose ends fit, and whose lower end fits to the upper bound that is there,
replaces both bounds. -/
theorem restrict_interval_of_fit {lower upper : Float} (letIn : EndsFit lower found.bounds.upper)
    (fit : EndsFit lower (some upper)) :
    Reader.restrict id (.interval lower upper) reader =
      .ok () { reader with
        model := { reader.model with
          vars := reader.model.vars.setContent id
            { found with bounds := ⟨some lower, some upper, none⟩ }
          generation := reader.model.generation + 2 } } := by
  have first := perform_setLowerBound present loose lower
  have second := perform_setUpperBound present lower found.bounds.upper upper
  rw [checkBounds_of_endsFit id letIn] at first
  rw [checkBounds_of_endsFit id fit, Reader.withBounds_withBounds] at second
  exact Reader.bind_eq_ok.mpr ⟨_, _, first, Reader.bind_eq_ok.mpr ⟨_, _, second, rfl⟩⟩

/-- An interval whose ends do not fit is refused, after the lower end was set. -/
theorem restrict_interval_of_misfit {lower upper : Float}
    (letIn : EndsFit lower found.bounds.upper) (misfit : ¬ EndsFit lower (some upper)) :
    ∃ after, Reader.restrict id (.interval lower upper) reader =
      .error (.refused (.invalidBounds (some lower) (some upper))) after := by
  have first := perform_setLowerBound present loose lower
  have second := perform_setUpperBound present lower found.bounds.upper upper
  rw [checkBounds_of_endsFit id letIn] at first
  rw [checkBounds_of_not_endsFit id misfit] at second
  exact ⟨_, (bind_of_ok first).trans (bind_of_error second)⟩

/-- An interval whose lower end does not fit to the upper bound that is there is refused for
that bound, whatever its own upper end is. -/
theorem restrict_interval_of_above {lower : Float} (above : ¬ EndsFit lower found.bounds.upper)
    (upper : Float) :
    ∃ after, Reader.restrict id (.interval lower upper) reader =
      .error (.refused (.invalidBounds (some lower) found.bounds.upper)) after := by
  have first := perform_setLowerBound present loose lower
  rw [checkBounds_of_not_endsFit id above] at first
  exact ⟨_, bind_of_error first⟩

end Restriction

/-! ## The line -/

section Line

variable {lines : List (List Char)} {reader : Reader}
  (run : Reader.readLines 1 lines {} = .ok () reader) {label : List Char} {id : VariableId}
  (known : Reader.lookup reader.labels label = some id) {lowerText upperText : List Char}
  {lower upper : Float} (readLower : readNumber lowerText = some lower)
  (readUpper : readNumber upperText = some upper)
include run known

/-- Every declared label stands for a variable with some content. -/
theorem content?_of_lookup : ∃ found, reader.model.vars.content? id = some found := by
  have live := (Reader.labelled_of_readLines run).live_of_lookup known
  obtain ⟨entry, member, rfl⟩ := List.mem_map.mp live
  cases present : reader.model.vars.entry? entry.id with
  | some other => exact ⟨other.content, by simp [Registry.content?, present]⟩
  | none =>
    have absent := List.find?_eq_none.mp present entry member
    simp at absent

omit known in
theorem upper_defined {found : Variable Float} (present : reader.model.vars.content? id = some found) :
    ∀ old, found.bounds.upper = some old → old.isNaN = false := by
  have lasting : Reader.Lasting WellFormed := fun _ applied wellFormed => wellFormed.apply applied
  have wellFormed := Reader.model_of_readLines lasting 1 lines {} reader run wellFormed_empty
  exact (wellFormed.bounds.of_content? present).isUndefined.2.1

include readLower readUpper

/-- Whatever the lines before it say about a variable, if it is not fixed, a line that puts it into
an interval is accepted exactly if the ends are defined and in order, and the lower end is not
above the upper bound that is there.  It then replaces both bounds and changes nothing else; and
otherwise it is refused with the bounds that are in each other's way. -/
theorem interval_unless_above (number : Nat) :
    ∃ found, reader.model.vars.content? id = some found ∧ (found.bounds.isFixed = false →
      ((∃ after, Reader.readLines number [intervalLine label lowerText upperText] reader =
            .ok () after) ↔
          (lower.isNaN = false ∧ upper.isNaN = false ∧ lower ≤ upper) ∧
            ∀ old, found.bounds.upper = some old → lower ≤ old) ∧
      (∀ after, Reader.readLines number [intervalLine label lowerText upperText] reader =
            .ok () after →
          after = { reader with
            model := { reader.model with
              vars := reader.model.vars.setContent id
                { found with bounds := ⟨some lower, some upper, none⟩ }
              generation := reader.model.generation + 2 } } ∧
          after.model.vars.content? id =
            some { found with bounds := ⟨some lower, some upper, none⟩ }) ∧
      (∀ error after, Reader.readLines number [intervalLine label lowerText upperText] reader =
            .error error after →
          ∃ old, error = ⟨number, .refused (.invalidBounds (some lower) old)⟩ ∧
            ¬ EndsFit lower old ∧ (old = found.bounds.upper ∨
              EndsFit lower found.bounds.upper ∧ old = some upper))) := by
  obtain ⟨found, present⟩ := content?_of_lookup run known
  refine ⟨found, present, fun loose => ?_⟩
  have defined := upper_defined run present
  have spelled := (Reader.labelled_of_readLines run).spelled_of_lookup known
  obtain ⟨said, restricts⟩ := statement_intervalLine spelled readLower readUpper known
  have filled : Reader.content (intervalLine label lowerText upperText) ≠ [] := by
    rw [said]
    exact (written_intervalLine spelled readLower readUpper).filled
  have letIn : EndsFit lower found.bounds.upper ↔
      lower.isNaN = false ∧ ∀ old, found.bounds.upper = some old → lower ≤ old := by
    constructor
    · rintro ⟨lowerDefined, inOrder⟩
      exact ⟨lowerDefined, fun old is => (inOrder old is).2⟩
    · rintro ⟨lowerDefined, inOrder⟩
      exact ⟨lowerDefined, fun old is => ⟨defined old is, inOrder old is⟩⟩
  have fit : EndsFit lower (some upper) ↔
      lower.isNaN = false ∧ upper.isNaN = false ∧ lower ≤ upper := by
    simp [EndsFit]
  have accepts : ∀ {after}, Reader.restrict id (.interval lower upper) reader = .ok () after →
      Reader.readLines number [intervalLine label lowerText upperText] reader = .ok () after := by
    intro after done
    rw [Reader.readLines]
    dsimp only
    rw [if_neg filled, said, restricts, done]
    rfl
  have refuses : ∀ {cause after}, Reader.restrict id (.interval lower upper) reader =
      .error cause after → Reader.readLines number [intervalLine label lowerText upperText] reader =
        .error ⟨number, cause⟩ after := by
    intro cause after failed
    rw [Reader.readLines]
    dsimp only
    rw [if_neg filled, said, restricts, failed]
  rw [← fit]
  by_cases first : EndsFit lower found.bounds.upper
  · by_cases second : EndsFit lower (some upper)
    · rw [accepts (restrict_interval_of_fit present loose first second)]
      refine ⟨⟨fun _ => ⟨second, (letIn.mp first).2⟩, fun _ => ⟨_, rfl⟩⟩, ?_, ?_⟩
      · rintro after ⟨⟩
        exact ⟨rfl, Registry.content?_setContent present _⟩
      · rintro error after ⟨⟩
    · obtain ⟨after, refused⟩ := restrict_interval_of_misfit present loose first second
      rw [refuses refused]
      refine ⟨⟨?_, fun accepted => absurd accepted.1 second⟩, ?_, ?_⟩
      · rintro ⟨_, ⟨⟩⟩
      · rintro after ⟨⟩
      · rintro error after ⟨⟩
        exact ⟨_, rfl, second, .inr ⟨first, rfl⟩⟩
  · obtain ⟨after, refused⟩ := restrict_interval_of_above present loose first upper
    rw [refuses refused]
    refine ⟨⟨?_, fun accepted => ?_⟩, ?_, ?_⟩
    · rintro ⟨_, ⟨⟩⟩
    · exact absurd (letIn.mpr ⟨accepted.1.1, accepted.2⟩) first
    · rintro after ⟨⟩
    · rintro error after ⟨⟩
      exact ⟨_, rfl, first, .inl rfl⟩

end Line

def boundedLines : List (List Char) :=
  ["variables: x".toList, "x >= -5".toList, "x <= 1".toList]

/-- An interval below the upper bound replaces both bounds. -/
theorem interval_unless_above_lowered :
    Reader.readLines 1 boundedLines {} = .ok () (Reader.ofLines boundedLines) ∧
      (Reader.ofLines boundedLines).model.vars.content? ⟨0⟩ =
        some ⟨⟨some (-5), some 1, none⟩, .continuous⟩ ∧
      ∃ after, Reader.readLines 4 [intervalLine "x".toList "-7e0".toList "+.5".toList]
          (Reader.ofLines boundedLines) = .ok () after ∧
        after.model.vars.content? ⟨0⟩ = some ⟨⟨some (-7), some 0.5, none⟩, .continuous⟩ := by
  have accepted : Reader.accepts boundedLines = true := by decide +kernel
  have run := Reader.readLines_ofLines accepted
  have known : Reader.lookup (Reader.ofLines boundedLines).labels "x".toList = some ⟨0⟩ := by
    decide +kernel
  have readLower : readNumber "-7e0".toList = some (-7) := by decide +kernel
  have readUpper : readNumber "+.5".toList = some 0.5 := by decide +kernel
  have present : (Reader.ofLines boundedLines).model.vars.content? ⟨0⟩ =
      some ⟨⟨some (-5), some 1, none⟩, .continuous⟩ := by decide +kernel
  obtain ⟨found, is, interval⟩ := interval_unless_above run known readLower readUpper 4
  cases is.symm.trans present
  obtain ⟨accepts, replaces, -⟩ := interval rfl
  have low : ∀ old, some (1 : Float) = some old → -7 ≤ old := by
    rintro old ⟨⟩
    decide +kernel
  obtain ⟨after, done⟩ :=
    accepts.mpr ⟨⟨by decide +kernel, by decide +kernel, by decide +kernel⟩, low⟩
  exact ⟨run, present, after, done, (replaces after done).2⟩

def cappedLines : List (List Char) :=
  ["variables: x".toList, "x <= 1".toList]

/-- An interval above the upper bound does not replace it, though its ends are in order. -/
theorem not_replaced_above :
    Reader.accepts cappedLines = true ∧
      Reader.lookup (Reader.ofLines cappedLines).labels "x".toList = some ⟨0⟩ ∧
      (Reader.ofLines cappedLines).model.vars.content? ⟨0⟩ =
        some ⟨⟨none, some 1, none⟩, .continuous⟩ ∧
      readNumber "2".toList = some 2 ∧ readNumber "3".toList = some 3 ∧
      (2 : Float).isNaN = false ∧ (3 : Float).isNaN = false ∧ (2 : Float) ≤ 3 ∧
      intervalLine "x".toList "2".toList "3".toList = "x in Interval(2, 3)".toList ∧
      Reader.accepts (cappedLines ++ [intervalLine "x".toList "2".toList "3".toList]) = false := by
  decide +kernel

end Model

end ConicModel
