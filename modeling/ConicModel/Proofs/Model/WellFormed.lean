import ConicModel.Proofs.Expr.Canonical
import ConicModel.Proofs.Model.Change
import ConicModel.Proofs.Model.Registry

/-!
Contract: the invariant of a model.

Owns:
- sound bounds, and expressions and constraints as a model stores them;
- the fact that every change keeps the invariant.

Does not own: which models can be reached, or what their text is.
-/

namespace ConicModel

variable {K : Type}

/-! ## Bounds -/

structure Bounds.Sound [ExtendedNumber K] (bounds : Bounds K) : Prop where
  defined : bounds.hasUndefined = false
  exclusive : (bounds.isFixed && bounds.isBounded) = false
  uncrossed : bounds.isCrossed = false

theorem Model.checkBounds_eq_ok [ExtendedNumber K] {id : VariableId} {bounds : Bounds K} :
    checkBounds id bounds = .ok () ↔ bounds.Sound := by
  unfold checkBounds
  constructor
  · intro checked
    split at checked
    · cases checked
    · rename_i defined
      split at checked
      · cases checked
      · rename_i exclusive
        split at checked
        · cases checked
        · rename_i uncrossed
          exact ⟨eq_false_of_ne_true defined, eq_false_of_ne_true exclusive,
            eq_false_of_ne_true uncrossed⟩
  · rintro ⟨defined, exclusive, uncrossed⟩
    rw [defined, exclusive, uncrossed]
    rfl

namespace Bounds

variable [ExtendedNumber K] {bounds : Bounds K}

theorem Sound.fixed_of_lower (sound : bounds.Sound) {value : K}
    (present : bounds.lower = some value) :
    bounds.fixed = none := by
  have exclusive := sound.exclusive
  unfold isFixed isBounded at exclusive
  rw [present] at exclusive
  cases fixed : bounds.fixed with
  | none => rfl
  | some value =>
    rw [fixed] at exclusive
    cases exclusive

theorem Sound.fixed_of_upper (sound : bounds.Sound) {value : K}
    (present : bounds.upper = some value) :
    bounds.fixed = none := by
  have exclusive := sound.exclusive
  unfold isFixed isBounded at exclusive
  rw [present, Option.isSome_some, Bool.or_true] at exclusive
  cases fixed : bounds.fixed with
  | none => rfl
  | some value =>
    rw [fixed] at exclusive
    cases exclusive

/-- No number of sound bounds is undefined. -/
theorem Sound.isUndefined (sound : bounds.Sound) :
    (∀ value, bounds.lower = some value → ExtendedNumber.isUndefined value = false) ∧
      (∀ value, bounds.upper = some value → ExtendedNumber.isUndefined value = false) ∧
      ∀ value, bounds.fixed = some value → ExtendedNumber.isUndefined value = false := by
  have defined := sound.defined
  unfold hasUndefined at defined
  rw [Bool.or_eq_false_iff, Bool.or_eq_false_iff] at defined
  have one : ∀ {present : Option K}, present.any ExtendedNumber.isUndefined = false →
      ∀ value, present = some value → ExtendedNumber.isUndefined value = false := by
    rintro _ none value rfl
    exact none
  exact ⟨one defined.1.1, one defined.1.2, one defined.2⟩

end Bounds

/-! ## Functions -/

namespace ConstraintFunction

theorem components_map (function : ConstraintFunction K) (replace : Expr K → Expr K) :
    (function.map replace).components = function.components.map replace := by
  cases function <;> rfl

theorem mem_vars {function : ConstraintFunction K} {id : VariableId} :
    id ∈ function.vars ↔ ∃ expr ∈ function.components, id ∈ expr.vars :=
  List.mem_flatMap

theorem degree_le_iff {function : ConstraintFunction K} {bound : Nat} :
    function.degree ≤ bound ↔ ∀ expr ∈ function.components, expr.degree ≤ bound := by
  have fold : ∀ (degrees : List Nat) (start : Nat),
      degrees.foldl max start ≤ bound ↔ start ≤ bound ∧ ∀ degree ∈ degrees, degree ≤ bound := by
    intro degrees
    induction degrees with
    | nil => simp
    | cons degree degrees inductionHypothesis =>
      intro start
      rw [List.foldl_cons, inductionHypothesis, List.forall_mem_cons, Nat.max_le, and_assoc]
  unfold degree
  rw [fold, List.forall_mem_map]
  exact ⟨And.right, fun all => ⟨Nat.zero_le _, all⟩⟩

/-- Replacing components by ones of no higher degree does not raise the degree. -/
theorem degree_map_le {function : ConstraintFunction K} {replace : Expr K → Expr K}
    (lower : ∀ expr, (replace expr).degree ≤ expr.degree) :
    (function.map replace).degree ≤ function.degree := by
  rw [degree_le_iff, components_map, List.forall_mem_map]
  exact fun expr member =>
    Nat.le_trans (lower expr) (degree_le_iff.mp (Nat.le_refl _) expr member)

end ConstraintFunction

/-! ## Expressions and constraints as they are stored -/

structure Expr.Stored [Zero K] [BEq K] (live : List VariableId) (expr : Expr K) : Prop where
  canonical : expr.Canonical
  live : ∀ id ∈ expr.vars, id ∈ live

/-- A constraint whose set is consistent and takes its function, over live
variables. -/
structure Constraint.Stored [ExtendedNumber K] [Zero K] [BEq K] (live : List VariableId)
    (constraint : Constraint K) : Prop where
  set : constraint.set.validate = .ok ()
  shape : checkShape constraint.function constraint.set = .ok ()
  degree : constraint.function.degree ≤ constraint.set.maxDegree
  components : ∀ expr ∈ constraint.function.components, expr.Stored live

theorem Expr.Stored.mono [Zero K] [BEq K] {live more : List VariableId} {expr : Expr K}
    (stored : expr.Stored live) (grown : ∀ id ∈ live, id ∈ more) : expr.Stored more :=
  ⟨stored.canonical, fun id member => grown id (stored.live id member)⟩

theorem Expr.stored_normalized [Zero K] [BEq K] [Add K] {live : List VariableId} {expr : Expr K}
    (known : ∀ id ∈ expr.vars, id ∈ live) : expr.normalized.Stored live :=
  ⟨expr.normalized_canonical, fun id member => known id (Expr.mem_vars_normalized member)⟩

theorem Expr.Stored.withoutVariable [Zero K] [BEq K] {live rest : List VariableId} {expr : Expr K}
    (stored : expr.Stored live) {dropped : VariableId}
    (kept : ∀ id ∈ live, id ≠ dropped → id ∈ rest) :
    (expr.withoutVariable dropped).Stored rest := by
  refine ⟨stored.canonical.withoutVariable dropped, fun id member => ?_⟩
  obtain ⟨old, different⟩ := Expr.mem_vars_withoutVariable member
  exact kept id (stored.live id old) different

namespace Constraint

theorem checkShape_map (function : ConstraintFunction K) (replace : Expr K → Expr K)
    (set : ConstraintSet K) : checkShape (function.map replace) set = checkShape function set := by
  cases function with
  | scalar expr =>
    unfold checkShape ConstraintFunction.map
    cases set.isScalar <;> rfl
  | vector components =>
    unfold checkShape ConstraintFunction.map
    cases set.isScalar <;> simp

theorem checkDegree_eq_ok {function : ConstraintFunction K} {set : ConstraintSet K} :
    checkDegree function set = .ok () ↔ function.degree ≤ set.maxDegree := by
  unfold checkDegree
  split
  · simp only [reduceCtorEq, false_iff]
    omega
  · simp only [true_iff]
    omega

variable [ExtendedNumber K]

theorem checkComponents_eq_ok : ∀ {components : List (Expr K)},
    checkComponents components = .ok () ↔ ∀ expr ∈ components, expr.checkFinite = .ok ()
  | [] => ⟨fun _ _ member => absurd member List.not_mem_nil, fun _ => rfl⟩
  | expr :: others => by
    rw [checkComponents, List.forall_mem_cons]
    cases expr.checkFinite with
    | error cause => exact ⟨(nomatch ·), fun finite => nomatch finite.1⟩
    | ok _ => exact checkComponents_eq_ok.trans ⟨fun rest => ⟨rfl, rest⟩, And.right⟩

/-- A consistent set that takes a function has a component for it. -/
theorem components_ne_nil {constraint : Constraint K} (valid : constraint.set.validate = .ok ())
    (shape : checkShape constraint.function constraint.set = .ok ()) :
    constraint.function.components ≠ [] := by
  obtain ⟨function, set⟩ := constraint
  cases function with
  | scalar expr => exact List.cons_ne_nil _ _
  | vector components =>
    rintro (rfl : components = [])
    cases set with
    | cone kind size =>
      have atLeast : kind.leastSize ≤ size := by
        simp only [ConstraintSet.validate] at valid
        split at valid
        · cases valid
        · omega
      have positive : 1 ≤ size := by
        refine Nat.le_trans ?_ atLeast
        cases kind <;> decide
      have dimension : 0 < kind.dimension size := by
        have square : 1 * 2 ≤ size * (size + 1) := Nat.mul_le_mul positive (by omega)
        cases kind with
        | semidefiniteTriangle => exact Nat.div_pos square (by decide)
        | semidefiniteSquare => exact Nat.mul_pos positive positive
        | _ => exact positive
      have none : ¬ 0 = kind.dimension size := by omega
      have mismatch : checkShape (.vector ([] : List (Expr K))) (.cone kind size) =
          .error (.dimensionMismatch kind.name (kind.dimension size) 0) := if_neg none
      cases mismatch.symm.trans shape
    | _ => cases shape

theorem validate_eq_ok {constraint : Constraint K} :
    constraint.validate = .ok () ↔ constraint.set.validate = .ok () ∧
      checkComponents constraint.function.components = .ok () ∧
      checkShape constraint.function constraint.set = .ok () ∧
      constraint.function.degree ≤ constraint.set.maxDegree := by
  unfold validate
  simp only [Model.bind_eq_ok, checkDegree_eq_ok]
  exact ⟨fun ⟨_, set, _, numbers, _, rest⟩ => ⟨set, numbers, rest⟩,
    fun ⟨set, numbers, rest⟩ => ⟨(), set, (), numbers, (), rest⟩⟩

/-- A valid constraint stays valid when its components are replaced by finite ones of no higher
degree. -/
theorem validate_map {constraint : Constraint K} (valid : constraint.validate = .ok ())
    {replace : Expr K → Expr K}
    (finite : ∀ expr, expr.checkFinite = .ok () → (replace expr).checkFinite = .ok ())
    (lower : ∀ expr, (replace expr).degree ≤ expr.degree) :
    validate ⟨constraint.function.map replace, constraint.set⟩ = .ok () := by
  obtain ⟨set, numbers, shape, degree⟩ := validate_eq_ok.mp valid
  rw [checkComponents_eq_ok] at numbers
  refine validate_eq_ok.mpr ⟨set, ?_, (checkShape_map _ _ _).trans shape,
    Nat.le_trans (ConstraintFunction.degree_map_le lower) degree⟩
  rw [checkComponents_eq_ok, ConstraintFunction.components_map, List.forall_mem_map]
  exact fun expr member => finite expr (numbers expr member)

variable [Zero K] [BEq K]

/-- All that a stored constraint can fail by is a number that is not finite. -/
theorem Stored.validate_eq_ok {live : List VariableId} {constraint : Constraint K}
    (stored : constraint.Stored live) :
    constraint.validate = .ok () ↔
      ∀ expr ∈ constraint.function.components, expr.checkFinite = .ok () := by
  rw [Constraint.validate_eq_ok, checkComponents_eq_ok]
  exact ⟨fun valid => valid.2.1, fun finite => ⟨stored.set, finite, stored.shape, stored.degree⟩⟩

theorem Stored.mono {live more : List VariableId} {constraint : Constraint K}
    (stored : constraint.Stored live) (grown : ∀ id ∈ live, id ∈ more) : constraint.Stored more :=
  { stored with components := fun expr member => (stored.components expr member).mono grown }

theorem stored_normalized [Add K] {live : List VariableId} {constraint : Constraint K}
    (valid : constraint.validate = .ok ()) (known : ∀ id ∈ constraint.function.vars, id ∈ live) :
    constraint.normalized.Stored live := by
  obtain ⟨set, _, shape, degree⟩ := validate_eq_ok.mp valid
  refine ⟨set, ?_, ?_, ?_⟩
  · exact (checkShape_map _ _ _).trans shape
  · exact Nat.le_trans (ConstraintFunction.degree_map_le Expr.degree_normalized_le) degree
  · show ∀ expr ∈ (constraint.function.map Expr.normalized).components, expr.Stored live
    rw [ConstraintFunction.components_map, List.forall_mem_map]
    exact fun expr member => Expr.stored_normalized fun id mentioned =>
      known id (ConstraintFunction.mem_vars.mpr ⟨expr, member, mentioned⟩)

theorem Stored.withoutVariable {live rest : List VariableId} {constraint : Constraint K}
    (stored : constraint.Stored live) {dropped : VariableId}
    (kept : ∀ id ∈ live, id ≠ dropped → id ∈ rest) :
    (constraint.withoutVariable dropped).Stored rest := by
  refine ⟨stored.set, ?_, ?_, ?_⟩
  · exact (checkShape_map _ _ _).trans stored.shape
  · exact Nat.le_trans (ConstraintFunction.degree_map_le fun expr =>
      expr.degree_withoutVariable_le dropped) stored.degree
  · show ∀ expr ∈ (constraint.function.map _).components, expr.Stored rest
    rw [ConstraintFunction.components_map, List.forall_mem_map]
    exact fun expr member => (stored.components expr member).withoutVariable kept

end Constraint

/-! ## Models -/

namespace Model

variable [ExtendedNumber K] [Zero K] [BEq K]

structure WellFormed (model : Model K) : Prop where
  vars : model.vars.WellFormed
  bounds : model.vars.All fun content => content.bounds.Sound
  constraints : model.constraints.WellFormed
  functions : model.constraints.All (Constraint.Stored model.vars.ids)
  objective : ∀ objective, model.objective = some objective →
    objective.expr.Stored model.vars.ids

theorem wellFormed_empty : (empty : Model K).WellFormed where
  vars := Registry.wellFormed_empty
  bounds _ member := absurd member List.not_mem_nil
  constraints := Registry.wellFormed_empty
  functions _ member := absurd member List.not_mem_nil
  objective _ present := nomatch present

namespace WellFormed

variable {model : Model K}

theorem touch (wellFormed : model.WellFormed) : (Model.touch model).WellFormed :=
  { wellFormed with }

/-- Variables may be replaced as long as the same ones are live. -/
theorem withVars (wellFormed : model.WellFormed) {vars : Registry .var (Variable K)}
    (registry : vars.WellFormed) (bounds : vars.All fun content => content.bounds.Sound)
    (grown : ∀ id ∈ model.vars.ids, id ∈ vars.ids) : WellFormed { model with vars := vars } where
  vars := registry
  bounds := bounds
  constraints := wellFormed.constraints
  functions := wellFormed.functions.imp fun _ stored => stored.mono grown
  objective objective present := (wellFormed.objective objective present).mono grown

theorem withConstraints (wellFormed : model.WellFormed)
    {constraints : Registry .con (Constraint K)} (registry : constraints.WellFormed)
    (functions : constraints.All (Constraint.Stored model.vars.ids)) :
    WellFormed { model with constraints := constraints } :=
  { wellFormed with constraints := registry, functions := functions }

theorem dropVariable (wellFormed : model.WellFormed) (id : VariableId) :
    (Model.dropVariable model id).WellFormed where
  vars := wellFormed.vars.remove id
  bounds := wellFormed.bounds.remove id
  constraints := wellFormed.constraints.mapContent fun constraint =>
    constraint.withoutVariable id
  functions := wellFormed.functions.mapContent fun _ stored =>
    stored.withoutVariable fun _ live different =>
      (model.vars.mem_ids_remove).mpr ⟨live, different⟩
  objective := by
    intro objective present
    obtain ⟨old, was, rfl⟩ := Option.map_eq_some_iff.mp present
    exact (wellFormed.objective old was).withoutVariable fun _ live different =>
      (model.vars.mem_ids_remove).mpr ⟨live, different⟩

/-- A name may be taken away, or given if it is allowed and free. -/
theorem putName (wellFormed : model.WellFormed) (entity : EntityRef) {name : Option String}
    (valid : ∀ given, name = some given → isValidName given = true)
    (unheld : ∀ given, name = some given → model.holder? entity.kind given = none) :
    (Model.putName model entity name).WellFormed := by
  cases entity with
  | var id =>
    refine wellFormed.withVars (wellFormed.vars.setName id valid fun given is => ?_)
      (wellFormed.bounds.setName id name) fun _ live => ?_
    · exact Option.map_eq_none_iff.mp (unheld given is)
    · rwa [Registry.ids_setName]
  | con id =>
    refine wellFormed.withConstraints (wellFormed.constraints.setName id valid fun given is => ?_)
      (wellFormed.functions.setName id name)
    exact Option.map_eq_none_iff.mp (unheld given is)

/-! ## Names -/

/-- The holder of a name is the entity that has it. -/
theorem holder?_eq_some (wellFormed : model.WellFormed) {entity : EntityRef} {name : String} :
    model.holder? entity.kind name = some entity ↔ model.name? entity = some name := by
  cases entity with
  | var id =>
    show (model.vars.holder? name).map EntityRef.var = some (.var id) ↔ _
    simp only [Option.map_eq_some_iff, EntityRef.var.injEq, exists_eq_right]
    exact wellFormed.vars.holder?_eq_some
  | con id =>
    show (model.constraints.holder? name).map EntityRef.con = some (.con id) ↔ _
    simp only [Option.map_eq_some_iff, EntityRef.con.injEq, exists_eq_right]
    exact wellFormed.constraints.holder?_eq_some

theorem isValidName_of_name? (wellFormed : model.WellFormed) {entity : EntityRef} {name : String}
    (named : model.name? entity = some name) : isValidName name = true := by
  cases entity with
  | var id => exact wellFormed.vars.isValidName_of_name? named
  | con id => exact wellFormed.constraints.isValidName_of_name? named

/-! ## Changes -/

variable [Add K]

/-- Every change keeps the invariant. -/
theorem change (wellFormed : model.WellFormed) {edit : Edit K} {outcome : Outcome K}
    (changed : Change model edit outcome) : outcome.model.WellFormed := by
  cases changed with
  | addVariable bounds category sound =>
    refine (wellFormed.withVars (wellFormed.vars.add _)
      (wellFormed.bounds.add (checkBounds_eq_ok.mp sound)) fun id live => ?_).touch
    rw [Registry.ids_add]
    exact List.mem_append_left _ live
  | addConstraint constraint valid live =>
    refine (wellFormed.withConstraints (wellFormed.constraints.add _)
      (wellFormed.functions.add ?_)).touch
    exact Constraint.stored_normalized valid fun id mentioned =>
      Registry.contains_iff.mp (live id mentioned)
  | setObjective sense expr finite live =>
    refine touch { wellFormed with objective := ?_ }
    intro objective present
    cases present
    exact Expr.stored_normalized fun id mentioned => Registry.contains_iff.mp (live id mentioned)
  | clearObjective objective present =>
    exact touch { wellFormed with objective := fun _ impossible => nomatch impossible }
  | clearNoObjective absent => exact wellFormed
  | removeVariable id live => exact (wellFormed.dropVariable id).touch
  | removeConstraint id live =>
    exact (wellFormed.withConstraints (wellFormed.constraints.remove id)
      (wellFormed.functions.remove id)).touch
  | updateBounds _ id update asked found present bounds updated sound =>
    refine (wellFormed.withVars (wellFormed.vars.setContent id _)
      (wellFormed.bounds.setContent id (checkBounds_eq_ok.mp sound)) fun _ live => ?_).touch
    rwa [Registry.ids_setContent]
  | setCategory id category found present =>
    have sound := wellFormed.bounds.of_content? present
    refine (wellFormed.withVars (wellFormed.vars.setContent id _)
      (wellFormed.bounds.setContent id ?_) fun _ live => ?_).touch
    · exact sound
    · rwa [Registry.ids_setContent]
  | clearName entity live name named =>
    refine (wellFormed.putName entity ?_ ?_).touch
    · intro given impossible
      cases impossible
    · intro given impossible
      cases impossible
  | clearNoName entity live unnamed => exact wellFormed
  | setName entity live name filled valid unheld =>
    refine (wellFormed.putName entity (fun given is => ?_) fun given is => ?_).touch
    · cases is
      exact valid
    · cases is
      exact unheld
  | setSameName entity live name filled valid held => exact wellFormed
  | setVariableMetadata id metadata live =>
    refine wellFormed.withVars (wellFormed.vars.setMetadata id metadata)
      (wellFormed.bounds.setMetadata id metadata) fun _ kept => ?_
    rwa [Registry.ids_setMetadata]
  | setConstraintMetadata id metadata live =>
    exact wellFormed.withConstraints (wellFormed.constraints.setMetadata id metadata)
      (wellFormed.functions.setMetadata id metadata)

/-- A change that `apply` performs keeps the invariant. -/
theorem apply (wellFormed : model.WellFormed) {edit : Edit K} {outcome : Outcome K}
    (applied : model.apply edit = .ok outcome) : outcome.model.WellFormed :=
  wellFormed.change (change_of_apply applied)

end WellFormed

end Model

end ConicModel
