import ConicModel.Proofs.Model.Line

/-!
Contract: the first lines of the text of a model, read back.

Owns:
- the entries of the model that is read, under the places of their ids;
- what the declaration of the variables and the objective do to the draft.

Does not own: the lines about variables and constraints.

The drafts of the declaration are indexed by the variables that are done.  The
step lemma moves one variable from those that are left to those that are done.
-/

namespace ConicModel

theorem Registry.WellFormed.place_ne {kind : EntityKind} {Content : Type}
    {registry : Registry kind Content} (wellFormed : registry.WellFormed)
    {earlier later : List (Entry kind Content)} {entry : Entry kind Content}
    (parts : registry.entries = earlier ++ entry :: later) :
    ∀ other ∈ earlier ++ later, registry.place other.id ≠ registry.place entry.id := by
  have increasing := wellFormed.increasing
  have live : ∀ other ∈ earlier ++ entry :: later, other.id ∈ registry.ids := by
    rw [← parts]
    exact fun other member => Registry.mem_ids member
  rw [parts] at increasing
  obtain ⟨_, after, across⟩ := List.pairwise_append.mp increasing
  have here := live entry (List.mem_append_right _ List.mem_cons_self)
  have apart : ∀ other, (registry.place other).number ≠ (registry.place entry.id).number →
      registry.place other ≠ registry.place entry.id := fun _ different same =>
    different (congrArg EntityId.number same)
  rw [List.forall_mem_append]
  constructor
  · intro other member
    have below := wellFormed.place_lt (live other (List.mem_append_left _ member)) here
      (across other member entry List.mem_cons_self)
    exact apart _ (by omega)
  · intro other member
    have above := wellFormed.place_lt here
      (live other (List.mem_append_right _ (List.mem_cons_of_mem _ member)))
      ((List.pairwise_cons.mp after).1 other member)
    exact apart _ (by omega)

/-! ## The entry that was added last -/

namespace Registry

variable {kind : EntityKind} {Content Other : Type} {registry : Registry kind Content}

/-- Entries that are done, and one more with the given content and name. -/
def withLast (placed : Entry kind Content → Entry kind Other) (done : List (Entry kind Content))
    (content : Other) (name : Option String) : Registry kind Other :=
  ⟨done.map placed ++ [{ id := ⟨done.length⟩, content := content, name := name }],
    done.length + 1⟩

variable (placed : Entry kind Content → Entry kind Other)
  (samePlace : ∀ entry, (placed entry).id = registry.place entry.id)
  (wellFormed : registry.WellFormed) {done todo : List (Entry kind Content)}
  {entry : Entry kind Content} (parts : registry.entries = done ++ entry :: todo)

include samePlace wellFormed parts

theorem setName_withLast (content : Other) (name : Option String) :
    (withLast placed done content none).setName ⟨done.length⟩ name =
      withLast placed done content name := by
  have apart : ∀ other ∈ done.map placed ++ [], other.id ≠ (⟨done.length⟩ : EntityId kind) := by
    rw [List.append_nil, List.forall_mem_map, ← wellFormed.place_eq parts]
    intro other inside
    rw [samePlace]
    exact wellFormed.place_ne parts other (List.mem_append_left _ inside)
  exact modify_at apart fun entry => { entry with name := name }

omit samePlace in
theorem holder?_withLast (sameName : ∀ entry, (placed entry).name = entry.name) (content : Other)
    {name : String} (named : entry.name = some name) :
    (withLast placed done content none).holder? name = none := by
  unfold holder?
  rw [Option.map_eq_none_iff, List.find?_eq_none]
  intro other inside same
  rcases List.mem_append.mp inside with old | new
  · obtain ⟨given, givenMember, rfl⟩ := List.mem_map.mp old
    rw [sameName] at same
    have givenIn : given ∈ registry.entries := by
      rw [parts]
      exact List.mem_append_left _ givenMember
    have member : entry ∈ registry.entries := by
      rw [parts]
      exact List.mem_append_right _ List.mem_cons_self
    exact wellFormed.place_ne parts given (List.mem_append_left _ givenMember)
      (congrArg registry.place (wellFormed.id_of_name givenIn member (beq_iff_eq.mp same) named))
  · rw [List.mem_singleton.mp new] at same
    cases beq_iff_eq.mp same

end Registry

namespace Model

/-! ## What is read for an expression -/

theorem checkFinite_reread (place : VariableId → VariableId) {expr : Expr Float}
    (finite : expr.checkFinite = .ok ()) : (reread place expr).checkFinite = .ok () := by
  obtain ⟨constant, linear, quadratic⟩ := Expr.checkFinite_eq_ok.mp finite
  refine Expr.checkFinite_eq_ok.mpr ⟨?_, ?_, ?_⟩
  · show (0 + expr.constant).isFinite = true
    cases zero : expr.constant == 0 with
    | true =>
      rw [Binary64.zero_add_of_beq _ zero]
      rfl
    | false =>
      rw [Binary64.zero_add_float _ zero]
      exact constant
  · exact List.forall_mem_map.mpr linear
  · exact List.forall_mem_map.mpr quadratic

theorem stored_reread {registry : Registry .var (Variable Float)} (wellFormed : registry.WellFormed)
    {expr : Expr Float} (stored : expr.Stored registry.ids) :
    (reread registry.place expr).Stored (registry.ids.map registry.place) := by
  have renamed := stored.rename wellFormed fun id live => List.mem_map_of_mem live
  exact ⟨⟨renamed.canonical.linear, renamed.canonical.quadratic, renamed.canonical.inOrder⟩,
    renamed.live⟩

/-- What is read for an expression is in canonical form already. -/
theorem normalized_reread {registry : Registry .var (Variable Float)}
    (wellFormed : registry.WellFormed) {expr : Expr Float} (stored : expr.Stored registry.ids) :
    (reread registry.place expr).normalized = reread registry.place expr :=
  Expr.normalized_of_canonical Binary64.zero_add_float (stored_reread wellFormed stored).canonical

theorem degree_reread_le (place : VariableId → VariableId) (expr : Expr Float) :
    (reread place expr).degree ≤ expr.degree :=
  expr.degree_rename_le place

/-! ## Entries -/

def blankEntry (model : Model Float) (entry : Entry .var (Variable Float)) :
    Entry .var (Variable Float) :=
  { id := model.vars.place entry.id, content := ⟨.free, .continuous⟩, name := entry.name }

def placedVariable (model : Model Float) (entry : Entry .var (Variable Float)) :
    Entry .var (Variable Float) :=
  { id := model.vars.place entry.id, content := entry.content, name := entry.name }

def placedConstraint (model : Model Float) (entry : Entry .con (Constraint Float)) :
    Entry .con (Constraint Float) :=
  { id := model.constraints.place entry.id
    content := ⟨entry.content.function.map (reread model.vars.place), entry.content.set⟩
    name := entry.name }

def placedObjective (model : Model Float) (objective : Objective Float) : Objective Float :=
  { objective with expr := reread model.vars.place objective.expr }

/-! ## The declaration -/

def declared (model : Model Float) (done : List (Entry .var (Variable Float))) : Draft where
  vars := ⟨done.map model.blankEntry, done.length⟩
  constraints := {}
  objective := none
  labels := done.map fun entry => (model.labelChars entry.id, model.vars.place entry.id)

/-- What has been read in the midst of a declaration: one more variable, with the
given name or none, whose label is not known yet. -/
def declaring (model : Model Float) (done : List (Entry .var (Variable Float)))
    (name : Option String) : Draft :=
  { declared model done with
    vars := Registry.withLast model.blankEntry done ⟨.free, .continuous⟩ name }

theorem takes_addVariable (model : Model Float) (done : List (Entry .var (Variable Float))) :
    Takes (Reader.perform (.addVariable .free .continuous)) (declared model done)
      (some (.var ⟨done.length⟩)) (declaring model done none) :=
  takes_perform (fun generation => ⟨generation + 1, .addVariable _ _ rfl⟩) rfl

section Declaration

variable {model : Model Float} (wellFormed : model.WellFormed)
  {done todo : List (Entry .var (Variable Float))} {entry : Entry .var (Variable Float)}
  (parts : model.vars.entries = done ++ entry :: todo)
include wellFormed parts

theorem takes_nameVariable {name : String} (named : entry.name = some name) :
    Takes (Reader.perform (.setName (.var ⟨done.length⟩) name)) (declaring model done none) none
      (declaring model done (some name)) := by
  have member : entry ∈ model.vars.entries := by
    rw [parts]
    exact List.mem_append_right _ List.mem_cons_self
  have valid := wellFormed.vars.validNames entry member name named
  have unheld := Registry.holder?_withLast model.blankEntry wellFormed.vars parts (fun _ => rfl)
    ⟨.free, .continuous⟩ named
  have renamed := Registry.setName_withLast model.blankEntry (fun _ => rfl) wellFormed.vars parts
    ⟨.free, .continuous⟩ (some name)
  exact takes_setName (.var ⟨done.length⟩) valid
    (fun generation => ⟨Registry.contains_at, Option.map_eq_none_iff.mpr unheld⟩)
    (fun generation => by
      unfold putName Draft.model declaring
      rw [← renamed]
      rfl) rfl

theorem takes_label : Takes (modify fun reader : Reader =>
      { reader with labels := reader.labels ++ [(model.labelChars entry.id, ⟨done.length⟩)] })
      (declaring model done entry.name) () (declared model (done ++ [entry])) := by
  have place := wellFormed.vars.place_eq parts
  have vars : (declaring model done entry.name).vars =
      (declared model (done ++ [entry])).vars := by
    unfold declaring declared blankEntry
    rw [List.map_append, List.length_append, List.map_singleton, place]
    rfl
  have labels : (declaring model done entry.name).labels ++
      [(model.labelChars entry.id, ⟨done.length⟩)] = (declared model (done ++ [entry])).labels := by
    show _ = (done ++ [entry]).map _
    rw [← place, List.map_append]
    rfl
  refine takes_modify fun generation events => ?_
  unfold Draft.reader Draft.model
  rw [vars, ← labels]
  rfl

/-- Step lemma: one declaration adds one blank variable with its label. -/
theorem takes_declareOne :
    Takes (Reader.declareOne (model.labelChars entry.id)) (declared model done) ()
      (declared model (done ++ [entry])) := by
  have member : entry ∈ model.vars.entries := by
    rw [parts]
    exact List.mem_append_right _ List.mem_cons_self
  have known := wellFormed.vars.name?_eq member
  have unnamed := isUnnamed_labelChars wellFormed.vars entry.id
  have label := takes_label wellFormed parts
  have fresh : Reader.lookup (declared model done).labels (model.labelChars entry.id) = none := by
    refine Reader.lookup_eq_none fun other inside same => ?_
    exact wellFormed.vars.place_ne parts other (List.mem_append_left _ inside)
      (congrArg model.vars.place (labelChars_injective wellFormed.vars same))
  unfold Reader.declareOne
  refine takes_get fun _ _ => ?_
  dsimp only [Draft.reader]
  rw [fresh]
  refine takes_get fun _ _ => (takes_addVariable model done).bind ?_
  rw [unnamed, known]
  cases named : entry.name with
  | none =>
    rw [named] at label
    exact label
  | some name =>
    have spelled : String.ofList (model.labelChars entry.id) = name := by
      rw [labelChars_named (known.trans named), String.ofList_toList]
    rw [named] at label
    rw [spelled]
    exact (takes_nameVariable wellFormed parts named).bind label

omit parts
/-- Run lemma: the declaration of all variables. -/
theorem takes_declare : ∀ {todo done : List (Entry .var (Variable Float))},
    model.vars.entries = done ++ todo →
    Takes (Reader.declare (todo.map fun entry => model.labelChars entry.id)) (declared model done)
      ()
      (declared model model.vars.entries)
  | [], done, parts => by
    rw [parts, List.append_nil]
    exact takes_pure ()
  | entry :: todo, done, parts =>
    (takes_declareOne wellFormed parts).bind
      (takes_declare (by rw [parts, List.append_assoc, List.singleton_append]))

end Declaration

section Lines

variable {model : Model Float} (wellFormed : model.WellFormed)
include wellFormed

theorem isLineChar_labelChars (id : VariableId) :
    ∀ character ∈ model.labelChars id, isLineChar character = true :=
  fun character member => isLineChar_of_isFactorChar
    (isFactorChar_of_isNameChar (isNameChar_labelChars wellFormed.vars id character member))

/-- The labels come back from the line that declares them. -/
theorem filledPieces_labels :
    Text.filledPieces (Text.join [',', ' '] (model.vars.ids.map model.labelChars)) =
      model.vars.ids.map model.labelChars := by
  refine Text.filledPieces_join ?_ ?_
  · rw [List.forall_mem_map]
    exact fun id _ => ⟨(token_labelChars wellFormed.vars id).tight,
      Text.not_mem_of_class (isNameChar_labelChars wellFormed.vars id) rfl⟩
  · rw [List.forall_mem_map]
    exact fun id _ => (token_labelChars wellFormed.vars id).filled

/-- What the declaration says, with the blank before the labels if there are any. -/
theorem content_declarationLine :
    ∃ rest, Reader.content model.declarationLine = "variables:".toList ++ rest ∧
      Text.filledPieces rest = model.vars.ids.map model.labelChars := by
  have labels := filledPieces_labels wellFormed
  by_cases none : model.vars.ids.map model.labelChars = []
  · refine ⟨[], ?_, ?_⟩
    · unfold declarationLine
      rw [none]
      rfl
    · rw [none]
      rfl
  · have labelTokens : ∀ label ∈ model.vars.ids.map model.labelChars,
        Text.Tight label ∧ label ≠ [] := by
      rw [List.forall_mem_map]
      intro id _
      have token := token_labelChars wellFormed.vars id
      exact ⟨token.tight, token.filled⟩
    obtain ⟨tight, filled⟩ := Text.tight_join none labelTokens
    have keyword : Text.Tight "variables:".toList := ⟨by decide, by decide⟩
    have noComment : '#' ∉ model.declarationLine := by
      refine List.not_mem_append (by decide) (Text.not_mem_of_class (isLineChar_join ?_) rfl)
      rw [List.forall_mem_map]
      exact fun id _ => isLineChar_labelChars wellFormed id
    refine ⟨' ' :: Text.join [',', ' '] (model.vars.ids.map model.labelChars), ?_, ?_⟩
    · exact content_eq (keyword.append tight [' '] (by decide) filled) noComment
    · unfold Text.filledPieces at *
      rw [Text.commaPieces_blank_cons]
      exact labels

theorem takesLines_declaration :
    TakesLines [model.declarationLine] (declared model []) (declared model model.vars.entries) := by
  obtain ⟨rest, said, labels⟩ := content_declarationLine wellFormed
  have listed : model.vars.ids.map model.labelChars =
      model.vars.entries.map fun entry => model.labelChars entry.id := List.map_map
  refine takesLines_singleton ?_ ?_
  · rw [said]
    exact List.append_ne_nil_of_left_ne_nil (by decide) _
  · unfold Reader.statement
    rw [said, Text.afterLiteral_append]
    dsimp only
    rw [labels, listed]
    exact takes_declare wellFormed rfl

/-! ## The objective -/

/-- A live variable is live in a draft that has it under its place. -/
theorem live_placed {draft : Draft} (ids : draft.vars.ids = model.vars.ids.map model.vars.place)
    (generation : Nat) {expr : Expr Float} (stored : expr.Stored model.vars.ids) :
    ∀ id ∈ (reread model.vars.place expr).vars,
      (draft.model generation).vars.contains id = true := by
  intro id member
  refine Registry.contains_iff.mpr ?_
  show id ∈ draft.vars.ids
  rw [ids]
  exact (stored_reread wellFormed.vars stored).live id member

theorem takes_setObjective {draft : Draft} (labels : draft.labels = model.table)
    (ids : draft.vars.ids = model.vars.ids.map model.vars.place) {objective : Objective Float}
    (stored : objective.expr.Stored model.vars.ids)
    (finite : objective.expr.checkFinite = .ok ()) :
    Takes (Reader.setObjective objective.sense (' ' :: model.exprChars objective.expr)) draft ()
      { draft with objective := some (model.placedObjective objective) } := by
  obtain ⟨side, _⟩ := side_exprChars wellFormed.vars stored finite
  have parsed : Reader.expression draft.labels
      (Text.trim (' ' :: model.exprChars objective.expr)) =
        .ok (reread model.vars.place objective.expr) := by
    rw [side.tight.trim_blank_cons, labels, expression_exprChars wellFormed.vars stored finite]
  have performs : Takes (Reader.perform (.setObjective objective.sense
      (reread model.vars.place objective.expr))) draft none
        { draft with objective := some (model.placedObjective objective) } := by
    refine takes_perform (fun generation => ⟨generation + 1, ?_⟩) rfl
    have change := Change.setObjective objective.sense (reread model.vars.place objective.expr)
      (checkFinite_reread _ finite) (live_placed wellFormed ids generation stored)
    rw [normalized_reread wellFormed.vars stored] at change
    exact change
  unfold Reader.setObjective
  refine takes_get fun generation events => ?_
  show Takes (Reader.part (Reader.expression draft.labels _) >>= _) _ _ _
  rw [parsed]
  exact (takes_part _).bind (takes_performed performs)

omit wellFormed

def objectiveKeyword : Sense → String
  | .minimize => "minobjective:"
  | .maximize => "maxobjective:"

theorem objectiveLines_eq {objective : Objective Float}
    (present : model.objective = some objective) :
    model.objectiveLines = [(objectiveKeyword objective.sense).toList ++
      ' ' :: model.exprChars objective.expr] := by
  obtain ⟨sense, expr⟩ := objective
  have minimum : "minobjective: ".toList = "minobjective:".toList ++ [' '] := by decide
  have maximum : "maxobjective: ".toList = "maxobjective:".toList ++ [' '] := by decide
  unfold objectiveLines objectiveKeyword
  rw [present]
  cases sense with
  | minimize =>
    dsimp only
    rw [minimum, List.append_assoc, List.singleton_append]
  | maximize =>
    dsimp only
    rw [maximum, List.append_assoc, List.singleton_append]

theorem statement_objective (sense : Sense) (rest : List Char) :
    Reader.statement ((objectiveKeyword sense).toList ++ rest) =
      Reader.setObjective sense rest := by
  have apart : ∀ {first second : Char} {left right : List Char}, first ≠ second →
      ¬ first :: left <+: second :: right := fun different start =>
    different (List.cons_prefix_cons.mp start).1
  have noVariables : Text.afterLiteral "variables:".toList
      ((objectiveKeyword sense).toList ++ rest) = none :=
    Text.afterLiteral_eq_none (by cases sense <;> exact apart (by decide))
  unfold Reader.statement
  rw [noVariables]
  cases sense with
  | minimize =>
    unfold objectiveKeyword
    rw [Text.afterLiteral_append]
  | maximize =>
    have noMinimum : Text.afterLiteral "minobjective:".toList ("maxobjective:".toList ++ rest) =
        none := Text.afterLiteral_eq_none fun start =>
      apart (by decide) (List.cons_prefix_cons.mp start).2
    unfold objectiveKeyword
    rw [noMinimum, Text.afterLiteral_append]

include wellFormed

theorem takesLines_objective {draft : Draft} (labels : draft.labels = model.table)
    (ids : draft.vars.ids = model.vars.ids.map model.vars.place)
    (absent : draft.objective = none)
    (finite : ∀ objective, model.objective = some objective →
      objective.expr.checkFinite = .ok ()) :
    TakesLines model.objectiveLines draft
      { draft with objective := model.objective.map model.placedObjective } := by
  cases present : model.objective with
  | none =>
    have same : { draft with objective := Option.map model.placedObjective none } = draft := by
      rw [Option.map_none, ← absent]
    unfold objectiveLines
    rw [same, present]
    exact takesLines_nil draft
  | some objective =>
    have stored := wellFormed.objective objective present
    have numbers := finite objective present
    obtain ⟨side, _⟩ := side_exprChars wellFormed.vars stored numbers
    have keyword : Text.Tight (objectiveKeyword objective.sense).toList ∧
        (objectiveKeyword objective.sense).toList ≠ [] ∧
        '#' ∉ (objectiveKeyword objective.sense).toList := by
      cases objective.sense <;> exact ⟨⟨by decide, by decide⟩, by decide, by decide⟩
    have said := content_eq (keyword.1.append side.tight [' '] keyword.2.1 side.filled)
      (List.not_mem_append keyword.2.2 (List.not_mem_append (by decide)
        (Text.not_mem_of_class side.chars rfl)))
    rw [List.singleton_append] at said
    rw [objectiveLines_eq present]
    refine takesLines_singleton ?_ ?_
    · rw [said]
      exact List.append_ne_nil_of_left_ne_nil keyword.2.1 _
    · rw [said, statement_objective]
      exact takes_setObjective wellFormed labels ids stored numbers

end Lines

end Model

end ConicModel
