import ConicModel.Proofs.Model.Evolution
import ConicModel.Proofs.Model.Reachable
import ConicModel.Proofs.Model.Reconstruction

/-!
Contract: the text that is written for a model that was read from a text.

Owns:
- the expressions of a model, in the order of its text;
- `Trims`, which compares a text with one that it has lost characters of;
- the exact condition under which the text of a model comes back byte for byte.

Does not own: what else of a model its text says.

A constant is read as a sum that starts at zero, so a negative zero comes back as the positive
one.  A zero is only written where an expression has no terms.
-/

namespace ConicModel

/-! ## Texts that lose characters -/

/-- The same text as before if `whole` holds, and a shorter one if it does not. -/
structure Trims (whole : Prop) (after before : List Char) : Prop where
  same : whole → after = before
  shorter : ¬ whole → after.length < before.length

namespace Trims

variable {first second whole : Prop} {after before rest others : List Char}

theorem refl (text : List Char) : Trims True text text :=
  ⟨fun _ => rfl, fun impossible => absurd trivial impossible⟩

theorem congr (trims : Trims first after before) (same : first ↔ second) :
    Trims second after before :=
  ⟨fun holds => trims.same (same.mpr holds), fun fails => trims.shorter (mt same.mp fails)⟩

theorem length_le (trims : Trims whole after before) : after.length ≤ before.length := by
  by_cases holds : whole
  · rw [trims.same holds]
  · exact Nat.le_of_lt (trims.shorter holds)

theorem eq_iff (trims : Trims whole after before) : after = before ↔ whole := by
  refine ⟨fun same => ?_, trims.same⟩
  by_contra fails
  have shorter := trims.shorter fails
  rw [same] at shorter
  exact Nat.lt_irrefl _ shorter

/-- Two texts one after the other are whole if both are. -/
theorem append (left : Trims first after before) (right : Trims second rest others) :
    Trims (first ∧ second) (after ++ rest) (before ++ others) := by
  constructor
  · rintro ⟨leftWhole, rightWhole⟩
    rw [left.same leftWhole, right.same rightWhole]
  · intro fails
    have leftLength := left.length_le
    have rightLength := right.length_le
    rw [List.length_append, List.length_append]
    by_cases leftWhole : first
    · have shorter := right.shorter fun rightWhole => fails ⟨leftWhole, rightWhole⟩
      omega
    · have shorter := left.shorter leftWhole
      omega

theorem prepend (text : List Char) (trims : Trims whole after before) :
    Trims whole (text ++ after) (text ++ before) :=
  ((refl text).append trims).congr (and_iff_right trivial)

theorem followed (trims : Trims whole after before) (text : List Char) :
    Trims whole (after ++ text) (before ++ text) :=
  (trims.append (refl text)).congr (and_iff_left trivial)

section Items

variable {α : Type} {each : α → Prop} {new old : α → List Char}

theorem flatMap : ∀ {items : List α}, (∀ item ∈ items, Trims (each item) (new item) (old item)) →
    Trims (∀ item ∈ items, each item) (items.flatMap new) (items.flatMap old)
  | [], _ => (refl []).congr (by simp)
  | item :: items, trims => by
    obtain ⟨here, later⟩ := List.forall_mem_cons.mp trims
    rw [List.flatMap_cons, List.flatMap_cons]
    exact (here.append (flatMap later)).congr List.forall_mem_cons.symm

theorem join (separator : List Char) : ∀ {items : List α},
    (∀ item ∈ items, Trims (each item) (new item) (old item)) →
    Trims (∀ item ∈ items, each item) (Text.join separator (items.map new))
      (Text.join separator (items.map old))
  | [], _ => (refl []).congr (by simp)
  | [item], trims => (trims item List.mem_cons_self).congr List.forall_mem_singleton.symm
  | item :: next :: items, trims => by
    obtain ⟨here, later⟩ := List.forall_mem_cons.mp trims
    have tail : Trims (∀ item ∈ next :: items, each item)
        (Text.join separator (new next :: items.map new))
        (Text.join separator (old next :: items.map old)) := join separator later
    exact ((here.followed separator).append tail).congr List.forall_mem_cons.symm

end Items

end Trims

/-! ## Expressions -/

def Expr.negativeZero : Expr Float := .const (-0)

theorem Expr.rename_of_fixed {K : Type} {place : VariableId → VariableId} (expr : Expr K)
    (fixed : ∀ id ∈ expr.vars, place id = id) : expr.rename place = expr := by
  obtain ⟨constant, linear, quadratic⟩ := expr
  unfold rename
  congr 1
  · refine (List.map_congr_left fun term member => ?_).trans (List.map_id _)
    exact Prod.ext (fixed _ (mem_vars.mpr (.inl ⟨term, member, rfl⟩))) rfl
  · refine (List.map_congr_left fun term member => ?_).trans (List.map_id _)
    have left := fixed _ (mem_vars.mpr (.inr ⟨term, member, .inl rfl⟩))
    have right := fixed _ (mem_vars.mpr (.inr ⟨term, member, .inr rfl⟩))
    exact Prod.ext (Prod.ext left right) rfl

/-- Names are found in what is left of the entries without their metadata. -/
theorem Registry.name?_congr {kind : EntityKind} {Content : Type}
    {left right : Registry kind Content}
    (same : left.entries.map Entry.bare = right.entries.map Entry.bare) (id : EntityId kind) :
    left.name? id = right.name? id := by
  have bare : ∀ registry : Registry kind Content, registry.name? id =
      ((registry.entries.map Entry.bare).find? fun entry => entry.id == id).bind Entry.name := by
    intro registry
    unfold name? entry?
    rw [List.find?_map, Option.bind_map]
    rfl
  rw [bare left, bare right, same]

namespace Model

def exprs {K : Type} (model : Model K) : List (Expr K) :=
  model.objective.toList.map Objective.expr ++
    model.constraints.entries.flatMap fun entry => entry.content.function.components

/-- The expression whose constant was added to zero. -/
def settled (expr : Expr Float) : Expr Float :=
  { expr with constant := 0 + expr.constant }

theorem exprChars_of_pieces {left right : Model Float} {expr other : Expr Float}
    (same : left.pieces expr = right.pieces other) :
    left.exprChars expr = right.exprChars other := by
  unfold exprChars
  rw [same]

/-- Beside terms a zero is not written. -/
theorem pieces_of_zero {model : Model Float} {expr : Expr Float}
    (filled : (model.termPieces expr).isEmpty = false) (zero : (expr.constant == 0) = true) :
    model.pieces expr = model.termPieces expr := by
  simp [pieces, bne, filled, zero]

theorem exprChars_const (model : Model Float) (constant : Float) :
    model.exprChars (.const constant) = NumberLayout.plain.write constant := by
  simp [exprChars, pieces, termPieces, Expr.const, Piece.first, Piece.magnitude]

/-- Adding the constant to zero shows only where nothing but a negative zero is written. -/
theorem trims_settled (model : Model Float) (expr : Expr Float) :
    Trims (expr ≠ .negativeZero) (model.exprChars (settled expr)) (model.exprChars expr) := by
  cases zero : expr.constant == 0 with
  | false =>
    have unchanged : settled expr = expr := by
      unfold settled
      rw [Binary64.zero_add_float _ zero]
    rw [unchanged]
    refine (Trims.refl _).congr (iff_of_true trivial ?_)
    rintro rfl
    revert zero
    decide
  | true =>
    have settles : 0 + expr.constant = 0 := Binary64.zero_add_of_beq _ zero
    cases bare : (model.termPieces expr).isEmpty with
    | false =>
      have settledZero : ((settled expr).constant == 0) = true := by
        show (0 + expr.constant == 0) = true
        rw [settles]
        decide
      have settledFilled : (model.termPieces (settled expr)).isEmpty = false := bare
      have unchanged : model.exprChars (settled expr) = model.exprChars expr :=
        exprChars_of_pieces
          ((pieces_of_zero settledFilled settledZero).trans (pieces_of_zero bare zero).symm)
      rw [unchanged]
      refine (Trims.refl _).congr (iff_of_true trivial ?_)
      rintro rfl
      cases bare
    | true =>
      obtain ⟨constant, linear, quadratic⟩ := expr
      obtain ⟨rfl, rfl⟩ : linear = [] ∧ quadratic = [] := by
        simpa [termPieces] using bare
      have written : settled ⟨constant, [], []⟩ = .const 0 := congrArg Expr.const settles
      rw [written, exprChars_const]
      have original := model.exprChars_const constant
      unfold Expr.const at original
      rw [original]
      rcases Binary64.zero_or_negZero zero with rfl | rfl
      · exact (Trims.refl _).congr (iff_of_true trivial (by decide))
      · exact ⟨fun impossible => absurd rfl impossible, fun _ => by decide⟩

/-! ## Functions and relations -/

theorem trims_functionChars (model : Model Float) (function : ConstraintFunction Float) :
    Trims (∀ expr ∈ function.components, expr ≠ .negativeZero)
      (model.functionChars (function.map settled)) (model.functionChars function) := by
  cases function with
  | scalar expr =>
    have alone : (∀ other ∈ [expr], other ≠ .negativeZero) ↔ expr ≠ .negativeZero :=
      List.forall_mem_singleton
    exact (model.trims_settled expr).congr alone.symm
  | vector components =>
    have joined := Trims.join [',', ' '] fun expr (_ : expr ∈ components) =>
      model.trims_settled expr
    unfold functionChars ConstraintFunction.map
    dsimp only
    rw [List.map_map]
    exact (joined.followed [']']).prepend ['[']

theorem trims_relationChars {whole : Prop} {after before : List Char}
    (trims : Trims whole after before) (set : ConstraintSet Float) :
    Trims whole (relationChars after set) (relationChars before set) := by
  unfold relationChars
  split
  · exact trims.followed _
  · exact trims.followed _

/-! ## Models with all ids in place -/

section Reconstruction

variable {model : Model Float} (wellFormed : model.WellFormed)
  (dense : model.vars.ids = (List.range model.vars.size).map EntityId.mk)
include wellFormed dense

theorem place_of_dense : ∀ id ∈ model.vars.ids, model.vars.place id = id := by
  have places : model.vars.ids.map model.vars.place = model.vars.ids.map fun id => id := by
    rw [wellFormed.vars.map_place, ← dense, List.map_id']
  exact List.map_inj_left.mp places

theorem reread_of_dense {expr : Expr Float} (stored : expr.Stored model.vars.ids) :
    reread model.vars.place expr = settled expr := by
  have inPlace : ∀ id ∈ expr.vars, model.vars.place id = id := fun id mentioned =>
    place_of_dense wellFormed dense id (stored.live id mentioned)
  unfold reread settled
  rw [expr.rename_of_fixed inPlace]

theorem reread_function_of_dense {function : ConstraintFunction Float}
    (stored : ∀ expr ∈ function.components, expr.Stored model.vars.ids) :
    function.map (reread model.vars.place) = function.map settled := by
  cases function with
  | scalar expr =>
    exact congrArg _ (reread_of_dense wellFormed dense (stored expr List.mem_cons_self))
  | vector components =>
    exact congrArg _ (List.map_congr_left fun expr member =>
      reread_of_dense wellFormed dense (stored expr member))

/-- The variables are read as they were, without metadata. -/
theorem map_placedVariable : model.vars.entries.map model.placedVariable =
    model.vars.entries.map Entry.bare := by
  refine List.map_congr_left fun entry member => ?_
  unfold placedVariable Entry.bare
  rw [place_of_dense wellFormed dense entry.id (Registry.mem_ids member)]

theorem labelChars_reconstructed (generation : Nat) :
    (model.reconstructed generation).labelChars = model.labelChars := by
  funext id
  have sameName : (model.reconstructed generation).vars.name? id = model.vars.name? id := by
    refine Registry.name?_congr ?_ id
    show (model.vars.entries.map model.placedVariable).map Entry.bare = _
    rw [map_placedVariable wellFormed dense, List.map_map]
    rfl
  unfold labelChars label
  rw [sameName]

theorem exprChars_reconstructed (generation : Nat) :
    (model.reconstructed generation).exprChars = model.exprChars := by
  funext expr
  apply exprChars_of_pieces
  unfold pieces termPieces
  rw [labelChars_reconstructed wellFormed dense]

theorem functionChars_reconstructed (generation : Nat) :
    (model.reconstructed generation).functionChars = model.functionChars := by
  funext function
  unfold functionChars
  rw [exprChars_reconstructed wellFormed dense]

theorem declarationLine_reconstructed (generation : Nat) :
    (model.reconstructed generation).declarationLine = model.declarationLine := by
  have sameIds : (model.reconstructed generation).vars.ids = model.vars.ids := by
    show (model.vars.entries.map model.placedVariable).map Entry.id = _
    rw [map_placedVariable wellFormed dense, List.map_map]
    rfl
  unfold declarationLine
  rw [sameIds, labelChars_reconstructed wellFormed dense]

theorem variableLines_reconstructed (generation : Nat) :
    (model.reconstructed generation).vars.entries.flatMap
        (model.reconstructed generation).variableLines =
      model.vars.entries.flatMap model.variableLines := by
  show (model.vars.entries.map model.placedVariable).flatMap _ = _
  rw [map_placedVariable wellFormed dense, List.flatMap_map]
  refine List.flatMap_congr fun entry _ => ?_
  rw [variableLines_eq, variableLines_eq, labelChars_reconstructed wellFormed dense]
  rfl

theorem trims_objectiveLines (generation : Nat) :
    Trims (∀ expr ∈ model.objective.toList.map Objective.expr, expr ≠ .negativeZero)
      ((model.reconstructed generation).objectiveLines.flatMap fun line => line ++ ['\n'])
      (model.objectiveLines.flatMap fun line => line ++ ['\n']) := by
  have rewritten : (model.reconstructed generation).objective =
      model.objective.map model.placedObjective := rfl
  cases present : model.objective with
  | none =>
    rw [present] at rewritten
    unfold objectiveLines
    rw [present, rewritten]
    exact (Trims.refl _).congr (by simp)
  | some objective =>
    rw [present] at rewritten
    rw [objectiveLines_eq present, objectiveLines_eq rewritten, List.flatMap_singleton,
      List.flatMap_singleton, exprChars_reconstructed wellFormed dense]
    unfold placedObjective
    dsimp only
    rw [reread_of_dense wellFormed dense (wellFormed.objective objective present)]
    have written := (model.trims_settled objective.expr).prepend [' ']
    exact ((written.prepend _).followed ['\n']).congr (by simp)

theorem trims_constraintLine (generation : Nat) {entry : Entry .con (Constraint Float)}
    (member : entry ∈ model.constraints.entries) :
    Trims (∀ expr ∈ entry.content.function.components, expr ≠ .negativeZero)
      ((model.reconstructed generation).constraintLine (model.placedConstraint entry) ++ ['\n'])
      (model.constraintLine entry ++ ['\n']) := by
  have stored := wellFormed.functions entry member
  have placedShape : Constraint.checkShape (model.placedConstraint entry).content.function
      (model.placedConstraint entry).content.set = .ok () :=
    (Constraint.checkShape_map _ _ _).trans stored.shape
  refine Trims.followed ?_ ['\n']
  unfold constraintLine
  rw [constraintChars_eq _ stored.shape, constraintChars_eq _ placedShape,
    functionChars_reconstructed wellFormed dense]
  unfold placedConstraint
  dsimp only
  rw [reread_function_of_dense wellFormed dense stored.components]
  exact (trims_relationChars (model.trims_functionChars _) _).prepend _

/-- The text comes back shorter exactly if some expression is a negative zero. -/
theorem trims_toText (generation : Nat) :
    Trims (Expr.negativeZero ∉ model.exprs) (model.reconstructed generation).toText.toList
      model.toText.toList := by
  have constraints : Trims (∀ entry ∈ model.constraints.entries,
        ∀ expr ∈ entry.content.function.components, expr ≠ .negativeZero)
      ((model.reconstructed generation).constraints.entries.flatMap fun entry =>
        (model.reconstructed generation).constraintLine entry ++ ['\n'])
      (model.constraints.entries.flatMap fun entry => model.constraintLine entry ++ ['\n']) := by
    show Trims _ ((model.constraints.entries.map model.placedConstraint).flatMap _) _
    rw [List.flatMap_map]
    exact Trims.flatMap fun entry member =>
      trims_constraintLine wellFormed dense generation member
  have absent : Expr.negativeZero ∉ model.exprs ↔
      (∀ expr ∈ model.objective.toList.map Objective.expr, expr ≠ .negativeZero) ∧
        ∀ entry ∈ model.constraints.entries,
          ∀ expr ∈ entry.content.function.components, expr ≠ .negativeZero := by
    unfold exprs
    rw [← List.forall_mem_ne', List.forall_mem_append, List.forall_mem_flatMap]
  have objective := trims_objectiveLines wellFormed dense generation
  unfold toText lines
  rw [String.toList_ofList, String.toList_ofList]
  simp only [List.flatMap_cons, List.flatMap_append, List.flatMap_map]
  rw [declarationLine_reconstructed wellFormed dense,
    variableLines_reconstructed wellFormed dense]
  exact (((objective.followed _).append constraints).prepend _).congr absent.symm

end Reconstruction

/-- The text of a model that can be reached, with all numbers finite and all ids in
place, is read without a refusal.  What is read has the same text exactly if no
expression of the model is nothing but a negative zero. -/
theorem toText_reread_iff {model : Model Float} (reached : model.Reachable)
    (writable : model.Writable)
    (dense : model.vars.ids = (List.range model.vars.size).map EntityId.mk) :
    ∃ parsed, ofText model.toText = .ok parsed ∧
      (parsed.toText = model.toText ↔ Expr.negativeZero ∉ model.exprs) := by
  obtain ⟨generation, read⟩ := ofText_toText reached.wellFormed writable
  refine ⟨model.reconstructed generation, read, ?_⟩
  rw [← String.toList_inj]
  exact (trims_toText reached.wellFormed dense generation).eq_iff

/-- Changes after which all ids of variables are in place, negative zeros stand in bounds,
in a set, beside a term and for a coefficient, and names and constraints have come and
gone. -/
def signedEdits : List (Edit Float) :=
  [.addVariable ⟨some (-0), some 0, none⟩ .integer,
    .addVariable (.fixedAt (-0)) .continuous,
    .setName (.var ⟨1⟩) "y",
    .addVariable .free .binary,
    .remove (.var ⟨2⟩),
    .addConstraint ⟨.scalar ⟨-0, [(⟨1⟩, 1), (⟨0⟩, -0)], [((⟨1⟩, ⟨0⟩), -0.5)]⟩, .interval (-0) 0⟩,
    .addConstraint ⟨.scalar (.const 1), .lessThan 1⟩,
    .addConstraint ⟨.vector [.const 0, ⟨-0, [(⟨0⟩, 1e-5)], []⟩], .cone .secondOrder 2⟩,
    .setName (.con ⟨2⟩) "ball",
    .remove (.con ⟨1⟩),
    .setObjective .maximize ⟨-0, [(⟨0⟩, 0.1)], [((⟨0⟩, ⟨0⟩), -3)]⟩]

theorem toText_reread_signedEdits :
    ((signedEdits.foldl attempt empty).Reachable ∧ (signedEdits.foldl attempt empty).Writable ∧
        (signedEdits.foldl attempt empty).vars.ids =
          (List.range (signedEdits.foldl attempt empty).vars.size).map EntityId.mk) ∧
      ∃ parsed, ofText (signedEdits.foldl attempt empty).toText = .ok parsed ∧
        (parsed.toText = (signedEdits.foldl attempt empty).toText ↔
          Expr.negativeZero ∉ (signedEdits.foldl attempt empty).exprs) :=
  have reached := Reachable.empty.foldl_attempt signedEdits
  have writable : (signedEdits.foldl attempt empty).Writable := by decide +kernel
  have dense : (signedEdits.foldl attempt empty).vars.ids =
      (List.range (signedEdits.foldl attempt empty).vars.size).map EntityId.mk := by
    decide +kernel
  ⟨⟨reached, writable, dense⟩, toText_reread_iff reached writable dense⟩

/-- The text of a model whose objective is a negative zero does not come back. -/
theorem not_reread_negativeZero :
    let model := [Edit.setObjective .minimize Expr.negativeZero].foldl attempt empty
    model.Reachable ∧ model.Writable ∧
      model.vars.ids = (List.range model.vars.size).map EntityId.mk ∧
      ¬ ∃ parsed, ofText model.toText = .ok parsed ∧ parsed.toText = model.toText := by
  refine ⟨Reachable.empty.foldl_attempt _, by decide +kernel, by decide +kernel, ?_⟩
  rintro ⟨parsed, read, same⟩
  have shorter : (ofText ([Edit.setObjective .minimize Expr.negativeZero].foldl attempt
      empty).toText).toOption.map toText = some "variables: \nminobjective: 0.0\n" := by
    decide +kernel
  have whole : ([Edit.setObjective .minimize Expr.negativeZero].foldl attempt empty).toText =
      "variables: \nminobjective: -0.0\n" := by
    decide +kernel
  rw [read] at shorter
  rw [whole] at same
  exact absurd (same.symm.trans (Option.some.inj shorter)) (by decide)

end Model

end ConicModel
