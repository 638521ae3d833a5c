import ConicModel.Form.Model
import ConicModel.Form.Session
import ConicModel.Proofs.Form.Interchange
import ConicModel.Proofs.Json.Reading

/-!
Contract: compact JSON texts are a format as the laws of interchange formats describe it.

Owns:
- values of any type whose form is regular, by way of their text;
- the texts of lists, alternatives and records from those of their parts;
- `Interchange.json`, with the laws on numbers and on derived writers and readers.

Does not own: the text itself, and what follows from the laws.
-/

namespace ConicModel

namespace JsonForm

/-! ## Values by way of their text -/

section Again

variable {α : Type} [JsonForm α] {value : α}

def codec (α : Type) [JsonForm α] : Codec α where
  write := text
  read := ofText?

theorem again_codec (regular : (write value).Regular) :
    (codec α).again value = read (write value).settled := by
  show ofText? (text value) = _
  unfold ofText? text
  rw [Json.read_compact regular]
  rfl

/-- A text is read as the value for which it was written. -/
theorem read_codec {written : String} (regular : (write value).Regular)
    (same : (codec α).write value = written) :
    (codec α).read written = read (write value).settled :=
  same ▸ again_codec regular

theorem regular_tagged (name : String) (regular : (write value).Regular) :
    (tagged name value).Regular :=
  ⟨List.nodup_singleton name, regular, trivial⟩

end Again

theorem regular_optional (value : Option Float) : (write value).Regular := by
  cases value <;> exact trivial

theorem regular_numbers (values : List Float) : (write values).Regular := by
  induction values with
  | nil => exact trivial
  | cons value values inductionHypothesis => exact ⟨trivial, inductionHypothesis⟩

theorem regular_word {size : Nat} (fits : size < 2 ^ 64) : (write size).Regular := by
  have inside : Json.Fits size := ⟨by omega, by exact_mod_cast fits⟩
  exact inside

theorem readBelow_of_lt {limit size : Nat} (below : size < limit) :
    readBelow limit (.integer size) = some size := by
  have inside : 0 ≤ (size : Int) ∧ (size : Int) < limit :=
    ⟨Int.natCast_nonneg size, Int.ofNat_lt.mpr below⟩
  exact if_pos inside

theorem read_word {size : Nat} (fits : size < 2 ^ 64) :
    (read (.integer size) : Option Nat) = some size :=
  readBelow_of_lt (by rwa [Nat.pow_eq])

theorem regular_number (value : Float) : (write value).Regular :=
  trivial

theorem settled_number {value : Float} (finite : value.isFinite = true) :
    (write value).settled = .number value :=
  if_pos finite

theorem read_settled_numbers (values : List Float) :
    (read (write values).settled : Option (List Float)) =
      values.mapM fun value => read (write value).settled := by
  show (Json.settledItems (values.map write)).mapM (read : Json → Option Float) = _
  induction values with
  | nil => rfl
  | cons value values inductionHypothesis =>
    rw [List.map_cons, Json.settledItems, List.mapM_cons, List.mapM_cons, inductionHypothesis]

/-- A record with one field is read as a set with parameters. -/
theorem read_set_record (name : String) (content : Json) (notInteger : name ≠ "Integer")
    (notZeroOne : name ≠ "ZeroOne") :
    (read (.record [(name, content)]) : Option (ConstraintSet Float)) =
      readSetContent name content := by
  have named : ∀ found, readName (.record [(name, content)]) = some found → found = name := by
    intro found read
    cases content <;> cases read
    rfl
  simp only [JsonForm.read]
  split
  · next read => exact absurd (named _ read).symm notInteger
  · next read => exact absurd (named _ read).symm notZeroOne
  · rfl

/-- A name of a cone is none of the other names. -/
theorem readSetContent_cone (kind : Cone) (content : Json) :
    readSetContent kind.name content = (read content).map (.cone kind) := by
  have known : Cone.ofName? kind.name = some kind := by cases kind <;> decide
  have different : kind.name ∉ ["LessThan", "GreaterThan", "EqualTo", "Interval"] := by
    cases kind <;> decide
  unfold readSetContent
  split
  all_goals
    try next same => exact absurd (same ▸ different) (by decide)
  rw [known]
  cases (read content : Option Nat) <;> rfl

/-- The fields of a record are taken for those of a matrix one by one. -/
theorem read_matrix_record (rows cols data : Json) :
    (read (.record [("rows", rows), ("cols", cols), ("data", data)]) :
      Option (DenseMatrix Float)) =
        (read rows : Option Nat).bind fun rows => (read cols : Option Nat).bind fun cols =>
          (read data : Option (List Float)).bind fun data => some ⟨rows, cols, data⟩ :=
  rfl

theorem regular_matrix (matrix : DenseMatrix Float) (rowsFit : matrix.rows < 2 ^ 64)
    (colsFit : matrix.cols < 2 ^ 64) : (write matrix).Regular := by
  have distinct : ["rows", "cols", "data"].Nodup := by decide
  exact ⟨distinct, regular_word rowsFit, regular_word colsFit, regular_numbers matrix.data, trivial⟩

theorem regular_bounds (bounds : Bounds Float) : (write bounds).Regular := by
  have distinct : ["lower", "upper", "fixed"].Nodup := by decide
  exact ⟨distinct, regular_optional bounds.lower, regular_optional bounds.upper,
    regular_optional bounds.fixed, trivial⟩

end JsonForm

open JsonForm

/-! ## Texts from the texts of parts -/

namespace Json

def arrayText (items : List String) : String :=
  String.ofList ('[' :: (Text.join [','] (items.map String.toList) ++ [']']))

def recordText (fields : List (String × String)) : String :=
  String.ofList ('\x7b' ::
    (Text.join [','] (fields.map fun field => quote field.1 ++ ':' :: field.2.toList) ++ ['\x7d']))

/-- The text of an alternative: its name, or a record with the name and the content. -/
def alternativeText (name : String) : Option String → String
  | none => String.ofList (quote name)
  | some content => recordText [(name, content)]

theorem compact_list (items : List Json) :
    (list items).compact = arrayText (items.map compact) := by
  have chars_items : itemsChars items = (items.map compact).map String.toList := by
    induction items with
    | nil => rfl
    | cons item items inductionHypothesis =>
      rw [itemsChars, inductionHypothesis, List.map_cons, List.map_cons, compact,
        String.toList_ofList]
  unfold arrayText
  rw [← chars_items]
  rfl

theorem compact_record (fields : List (String × Json)) :
    (record fields).compact = recordText (fields.map fun field => (field.1, field.2.compact)) := by
  have chars_fields : fieldsChars fields = (fields.map fun field => (field.1, field.2.compact)).map
      fun field => quote field.1 ++ ':' :: field.2.toList := by
    induction fields with
    | nil => rfl
    | cons field fields inductionHypothesis =>
      rw [fieldsChars, inductionHypothesis, List.map_cons, List.map_cons, compact,
        String.toList_ofList]
  unfold recordText
  rw [← chars_fields]
  rfl

theorem compact_of_not_finite {value : Float} (infinite : value.isFinite = false) :
    (number value).compact = "null" := by
  unfold compact chars numberChars
  rw [infinite]
  rfl

end Json

namespace JsonForm

section Alternatives

variable {α β : Type} [JsonForm α] [JsonForm β] {name : String} {content : β} {value : α}

theorem write_tagged (form : write value = tagged name content) :
    (codec α).write value = Json.alternativeText name (some ((codec β).write content)) :=
  (congrArg Json.compact form).trans (Json.compact_record [(name, write content)])

/-- An alternative is read as its content is, if its reader leaves the content to the reader of
its own type. -/
theorem read_alternativeText {build : β → α}
    (form : write (build content) = tagged name content) (regular : (write content).Regular)
    (reads : ∀ json, (read (.record [(name, json)]) : Option α) = (read json).map build) :
    (codec α).read (Json.alternativeText name (some ((codec β).write content))) =
      ((codec β).again content).map build := by
  have regularForm : (write (build content)).Regular := form ▸ regular_tagged name regular
  rw [read_codec regularForm (write_tagged form), again_codec regular, form]
  exact reads _

end Alternatives

theorem write_numbers (values : List Float) :
    (codec (List Float)).write values = Json.arrayText (values.map (codec Float).write) := by
  refine (Json.compact_list (values.map write)).trans ?_
  rw [List.map_map]
  rfl

end JsonForm

/-! ## The format -/

def Interchange.json : Interchange where
  number := codec Float
  optional := codec (Option Float)
  word := codec Nat
  numbers := codec (List Float)
  array := Json.arrayText
  alternative := Json.alternativeText
  record := Json.recordText
  set := codec (ConstraintSet Float)
  bounds := codec (Bounds Float)
  matrix := codec (DenseMatrix Float)
  result := codec (ResultValue Float)

namespace Interchange

theorem numbers_json : json.Numbers where
  again_finite := by
    intro value finite
    refine (again_codec (regular_number value)).trans ?_
    rw [settled_number finite]
    rfl
  write_infinite := fun value infinite => Json.compact_of_not_finite infinite
  read_null := by decide +kernel
  write_none := rfl
  write_some := fun value => rfl
  read_none := by decide +kernel
  read_some := by
    intro value present
    have finite : value.isFinite = true := by
      by_contra infinite
      exact present (Json.compact_of_not_finite (Bool.eq_false_iff.mpr infinite))
    have form : (write (some value) : Json).settled = .number value := settled_number finite
    refine (again_codec (regular_optional (some value))).trans ?_
    refine Eq.trans ?_ (congrArg (Option.map some) (again_codec (regular_number value)).symm)
    rw [form, settled_number finite]
    rfl
  again_word := by
    intro size fits
    exact (again_codec (regular_word fits)).trans (read_word fits)
  write_numbers := write_numbers
  read_numbers := by
    intro values
    refine (read_codec (regular_numbers values) (write_numbers values)).trans ?_
    refine (read_settled_numbers values).trans (congrArg (values.mapM ·) (funext fun value => ?_))
    exact (again_codec (regular_number value)).symm

theorem write_set_json (set : ConstraintSet Float) :
    json.set.write set = json.alternative set.name (json.setContent set) := by
  cases set with
  | lessThan bound => exact write_tagged rfl
  | greaterThan bound => exact write_tagged rfl
  | equalTo value => exact write_tagged rfl
  | interval lower upper =>
    have form : write (.interval lower upper : ConstraintSet Float) =
        tagged "Interval" [lower, upper] := rfl
    refine (write_tagged form).trans ?_
    rw [write_numbers]
    rfl
  | integer => rfl
  | zeroOne => rfl
  | cone kind size => exact write_tagged rfl

theorem write_result_json (value : ResultValue Float) :
    json.result.write value =
      json.alternative (json.resultContent value).1 (some (json.resultContent value).2) := by
  cases value with
  | scalar value => exact write_tagged rfl
  | vector values => exact write_tagged rfl
  | matrix entries => exact write_tagged rfl

theorem write_bounds_json (bounds : Bounds Float) :
    json.bounds.write bounds =
      json.record (json.boundsFields bounds.lower bounds.upper bounds.fixed) :=
  Json.compact_record _

theorem write_matrix_json (matrix : DenseMatrix Float) :
    json.matrix.write matrix =
      json.record (json.matrixFields matrix.rows matrix.cols matrix.data) :=
  Json.compact_record _

theorem read_interval_json (lower upper : Float) :
    json.set.read (json.alternative "Interval"
        (some (json.array [json.number.write lower, json.number.write upper]))) =
      (json.number.again lower).bind fun lower =>
        (json.number.again upper).bind fun upper => some (.interval lower upper) := by
  have regular : (write (.interval lower upper : ConstraintSet Float)).Regular :=
    regular_tagged "Interval" (regular_numbers [lower, upper])
  refine (read_codec regular (write_set_json (.interval lower upper))).trans ?_
  refine (read_set_record "Interval" _ (by decide) (by decide)).trans ?_
  unfold json
  rw [again_codec (regular_number lower), again_codec (regular_number upper)]
  rfl

theorem read_bounds_json (lower upper fixed : Option Float) :
    json.bounds.read (json.record (json.boundsFields lower upper fixed)) =
      (json.optional.again lower).bind fun lower =>
        (json.optional.again upper).bind fun upper =>
          (json.optional.again fixed).bind fun fixed => some ⟨lower, upper, fixed⟩ := by
  refine (read_codec (regular_bounds ⟨lower, upper, fixed⟩) (write_bounds_json _)).trans ?_
  unfold json
  rw [again_codec (regular_optional lower), again_codec (regular_optional upper),
    again_codec (regular_optional fixed)]
  rfl

theorem read_matrix_json (rows : Nat) (rowsFit : rows < 2 ^ 64) (cols : Nat)
    (colsFit : cols < 2 ^ 64) (data : List Float) :
    json.matrix.read (json.record (json.matrixFields rows cols data)) =
      (json.word.again rows).bind fun rows =>
        (json.word.again cols).bind fun cols =>
          (json.numbers.again data).bind fun data => some ⟨rows, cols, data⟩ := by
  refine (read_codec (regular_matrix ⟨rows, cols, data⟩ rowsFit colsFit)
    (write_matrix_json _)).trans ?_
  refine (read_matrix_record (write rows).settled (write cols).settled
    (write data).settled).trans ?_
  unfold json
  rw [again_codec (regular_word rowsFit), again_codec (regular_word colsFit),
    again_codec (regular_numbers data)]

theorem derived_json : json.Derived where
  write_set := write_set_json
  read_lessThan := fun bound =>
    read_alternativeText rfl (regular_number bound) fun content =>
      read_set_record "LessThan" content (by decide) (by decide)
  read_greaterThan := fun bound =>
    read_alternativeText rfl (regular_number bound) fun content =>
      read_set_record "GreaterThan" content (by decide) (by decide)
  read_equalTo := fun value =>
    read_alternativeText rfl (regular_number value) fun content =>
      read_set_record "EqualTo" content (by decide) (by decide)
  read_interval := read_interval_json
  read_integer := by decide +kernel
  read_zeroOne := by decide +kernel
  read_cone := by
    intro kind size fits
    refine read_alternativeText rfl (regular_word fits) fun content => ?_
    refine (read_set_record kind.name content ?_ ?_).trans (readSetContent_cone kind content)
    · cases kind <;> decide
    · cases kind <;> decide
  write_bounds := write_bounds_json
  read_bounds := read_bounds_json
  write_matrix := write_matrix_json
  read_matrix := read_matrix_json
  write_result := write_result_json
  read_scalar := fun value =>
    read_alternativeText rfl (regular_number value) fun _ => rfl
  read_vector := fun values =>
    read_alternativeText rfl (regular_numbers values) fun _ => rfl
  read_matrixResult := fun matrix rowsFit colsFit =>
    read_alternativeText rfl (regular_matrix matrix rowsFit colsFit) fun _ => rfl

end Interchange

end ConicModel
