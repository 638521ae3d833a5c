import ConicModel.Proofs.Json.Numeral

/-!
Contract: the compact text of a value is read as that value, with `null` for the numbers that are
not finite.

Owns:
- texts between quotes, with their escapes;
- the values whose texts are read back, and what is read;
- reading of a value in front of other text.

Does not own: the numbers themselves, or what a value stands for.
-/

namespace ConicModel.Json

/-! ## Texts between quotes -/

theorem hexValue_digitChar {digit : Nat} (small : digit < 16) :
    hexValue (Nat.digitChar digit) = some digit := by
  have each : ∀ digit < 16, hexValue (Nat.digitChar digit) = some digit := by decide
  exact each digit small

theorem hexValue_hexDigit {digit : Nat} (small : digit < 16) :
    hexValue (hexDigit digit) = some digit := by
  unfold hexDigit
  rw [Nat.toDigits_of_lt_base small]
  exact hexValue_digitChar small

/-- Two digits after two zeros give a character below 256. -/
theorem hexUnit_hexDigit {code : Nat} (small : code < 256) :
    hexUnit '0' '0' (hexDigit (code / 16)) (hexDigit (code % 16)) = some code := by
  have high : hexValue (hexDigit (code / 16)) = some (code / 16) := hexValue_hexDigit (by omega)
  have low : hexValue (hexDigit (code % 16)) = some (code % 16) := hexValue_hexDigit (by omega)
  have zero : hexValue '0' = some 0 := rfl
  unfold hexUnit
  rw [high, low, zero]
  simp only [Option.bind_eq_bind, Option.bind_some, Option.pure_def, Option.some.injEq]
  omega

/-- The form of a character inside quotes is read as the character. -/
theorem readQuoted_escape (done : List Char) (character : Char) (rest : List Char) :
    readQuoted done (escape character ++ rest) = readQuoted (character :: done) rest := by
  unfold escape
  split
  · next same => rw [same]; rfl
  split
  · next same => rw [same]; rfl
  split
  · next same => rw [same]; rfl
  split
  · next same => rw [same]; rfl
  split
  · next same => rw [same]; rfl
  split
  · next same => rw [← Char.ofNat_toNat character, same]; rfl
  split
  · next same => rw [← Char.ofNat_toNat character, same]; rfl
  split
  · next small =>
    have unit : hexUnit '0' '0' (hexDigit (character.toNat / 16))
        (hexDigit (character.toNat % 16)) = some character.toNat := hexUnit_hexDigit (by omega)
    have single : singleUnit character.toNat = some character := by
      unfold singleUnit
      rw [if_neg (by omega), Char.ofNat_toNat]
    show readQuoted done ('\\' :: 'u' :: '0' :: '0' :: _ :: _ :: rest) = _
    rw [readQuoted, unit]
    simp only [single]
  · next notQuote notSlash _ _ _ _ _ notSmall =>
    show readQuoted done (character :: rest) = _
    -- No other case of the reader begins with this character.
    rw [readQuoted, if_neg notSmall]
    all_goals (intros; contradiction)

/-- A text between quotes is read up to the closing one. -/
theorem readQuoted_flatMap (done characters rest : List Char) :
    readQuoted done (characters.flatMap escape ++ '"' :: rest) =
      some (String.ofList (done.reverse ++ characters), rest) := by
  induction characters generalizing done with
  | nil =>
    rw [List.append_nil]
    rfl
  | cons character characters inductionHypothesis =>
    rw [List.flatMap_cons, List.append_assoc, readQuoted_escape, inductionHypothesis,
      List.reverse_cons, List.append_assoc]
    rfl

theorem readQuoted_quote (text : String) (rest : List Char) :
    ∃ quoted, quote text ++ rest = '"' :: quoted ∧ readQuoted [] quoted = some (text, rest) := by
  refine ⟨text.toList.flatMap escape ++ '"' :: rest, ?_, ?_⟩
  · unfold quote
    simp
  · rw [readQuoted_flatMap]
    exact congrArg (fun found => some (found, rest)) (String.ofList_toList)

/-! ## Values that read back -/

mutual

/-- Values whose whole numbers fit and whose records have no key twice. -/
def Regular : Json → Prop
  | integer value => Fits value
  | list items => RegularItems items
  | record fields => (fields.map Prod.fst).Nodup ∧ RegularFields fields
  | _ => True

def RegularItems : List Json → Prop
  | [] => True
  | item :: items => Regular item ∧ RegularItems items

def RegularFields : List (String × Json) → Prop
  | [] => True
  | (_, value) :: fields => Regular value ∧ RegularFields fields

end

mutual

/-- What a text tells of a value: a number that is not finite has become `null`. -/
def settled : Json → Json
  | number value => if value.isFinite then number value else null
  | list items => list (settledItems items)
  | record fields => record (settledFields fields)
  | other => other

def settledItems : List Json → List Json
  | [] => []
  | item :: items => settled item :: settledItems items

def settledFields : List (String × Json) → List (String × Json)
  | [] => []
  | (key, value) :: fields => (key, settled value) :: settledFields fields

end

/-! ## Texts that follow a value -/

def EndsNumeral (rest : List Char) : Prop :=
  ∀ character ∈ rest.head?, isNumeralChar character = false

/-- Whether a text begins with what may begin a value: neither a blank nor the end of a list. -/
def BeginsValue (text : List Char) : Prop :=
  ∃ first ∈ text.head?, first ≠ ']' ∧ skipBlanks text = text

theorem beginsValue_cons {first : Char} (rest : List Char) (notEnd : first ≠ ']')
    (notBlank : (first == ' ' || first == '\n' || first == '\r' || first == '\t') = false) :
    BeginsValue (first :: rest) := by
  refine ⟨first, rfl, notEnd, ?_⟩
  unfold skipBlanks
  rw [List.dropWhile_cons, notBlank]
  rfl

section Numeral

variable {first : Char} (numeral : isNumeralChar first = true)
include numeral

theorem ne_of_isNumeralChar {other : Char} (different : isNumeralChar other = false) :
    first ≠ other := by
  rintro rfl
  rw [numeral] at different
  cases different

theorem beginsValue_of_isNumeralChar (rest : List Char) : BeginsValue (first :: rest) := by
  have blank (other : Char) (different : isNumeralChar other = false) : (first == other) = false :=
    beq_eq_false_iff_ne.mpr (ne_of_isNumeralChar numeral different)
  refine beginsValue_cons rest (ne_of_isNumeralChar numeral rfl) ?_
  rw [blank ' ' rfl, blank '\n' rfl, blank '\r' rfl, blank '\t' rfl]
  rfl

end Numeral

/-- A number is read in front of a text that ends it. -/
theorem readValue_numeral {text rest : List Char} {value : Json} (fuel : Nat)
    (isNumeral : ∀ character ∈ text, isNumeralChar character = true)
    (read : readNumeral text = some value) (ends : EndsNumeral rest) :
    BeginsValue (text ++ rest) ∧ readValue (fuel + 1) (text ++ rest) = some (value, rest) := by
  obtain ⟨taken, dropped⟩ := takeRun_append isNumeral ends
  cases text with
  | nil => cases read
  | cons first others =>
    have firstNumeral := isNumeral first List.mem_cons_self
    have begins := beginsValue_of_isNumeralChar firstNumeral (others ++ rest)
    refine ⟨begins, ?_⟩
    obtain ⟨-, -, -, unblank⟩ := begins
    unfold readValue
    rw [List.cons_append, unblank]
    -- Every other value begins with a character that no number has.
    split
    case h_7 =>
      rw [← List.cons_append, taken, dropped, read]
      rfl
    all_goals
      next same =>
        rw [(List.cons.inj same).1] at firstNumeral
        exact absurd firstNumeral (by decide)

/-! ## Lists and records -/

theorem join_cons (piece : List Char) {others : List (List Char)} (filled : others ≠ []) :
    Text.join [','] (piece :: others) = piece ++ ',' :: Text.join [','] others := by
  obtain ⟨second, others, rfl⟩ := List.exists_cons_of_ne_nil filled
  show piece ++ [','] ++ Text.join [','] (second :: others) = _
  rw [List.append_assoc]
  rfl

theorem itemsChars_ne_nil {items : List Json} (filled : items ≠ []) : itemsChars items ≠ [] := by
  cases items with
  | nil => exact absurd rfl filled
  | cons item items => exact List.cons_ne_nil _ _

theorem fieldsChars_ne_nil {fields : List (String × Json)} (filled : fields ≠ []) :
    fieldsChars fields ≠ [] := by
  cases fields with
  | nil => exact absurd rfl filled
  | cons field fields => exact List.cons_ne_nil _ _

/-- A bracket is followed by items unless it is closed at once. -/
theorem readValue_list (fuel : Nat) {text : List Char} (begins : BeginsValue text) :
    readValue (fuel + 1) ('[' :: text) =
      (readItems fuel [] text).map fun (items, rest) => (list items, rest) := by
  obtain ⟨first, leading, notEnd, unblank⟩ := begins
  obtain ⟨others, rfl⟩ := List.head?_eq_some_iff.mp leading
  have opened : skipBlanks ('[' :: first :: others) = '[' :: first :: others := rfl
  unfold readValue
  rw [opened]
  simp only [unblank]
  split
  · next same => exact absurd (List.cons.inj same).1 notEnd
  · rfl

theorem readValue_record (fuel : Nat) (quoted : List Char) :
    readValue (fuel + 1) ('\x7b' :: '"' :: quoted) =
      (readFields fuel [] ('"' :: quoted)).map fun (fields, rest) => (record fields, rest) :=
  rfl

theorem readItems_of_readValue {fuel : Nat} {text rest : List Char} {item : Json}
    (read : readValue fuel text = some (item, ',' :: rest)) (done : List Json) :
    readItems (fuel + 1) done text = readItems fuel (item :: done) rest := by
  rw [readItems, read]
  rfl

theorem readItems_of_last {fuel : Nat} {text rest : List Char} {item : Json}
    (read : readValue fuel text = some (item, ']' :: rest)) (done : List Json) :
    readItems (fuel + 1) done text = some ((item :: done).reverse, rest) := by
  rw [readItems, read]
  rfl

theorem readFields_of_readValue {fuel : Nat} {quoted text rest : List Char} {key : String}
    {value : Json} (readKey : readQuoted [] quoted = some (key, ':' :: text))
    (read : readValue fuel text = some (value, ',' :: rest)) (done : List (String × Json)) :
    readFields (fuel + 1) done ('"' :: quoted) =
      readFields fuel (addField done key value) rest := by
  have opened : skipBlanks ('"' :: quoted) = '"' :: quoted := rfl
  have colon : skipBlanks (':' :: text) = ':' :: text := rfl
  have comma : skipBlanks (',' :: rest) = ',' :: rest := rfl
  rw [readFields, opened]
  simp only [readKey, colon, read, comma]

theorem readFields_of_last {fuel : Nat} {quoted text rest : List Char} {key : String}
    {value : Json} (readKey : readQuoted [] quoted = some (key, ':' :: text))
    (read : readValue fuel text = some (value, '\x7d' :: rest)) (done : List (String × Json)) :
    readFields (fuel + 1) done ('"' :: quoted) = some ((addField done key value).reverse, rest) := by
  have opened : skipBlanks ('"' :: quoted) = '"' :: quoted := rfl
  have colon : skipBlanks (':' :: text) = ':' :: text := rfl
  have closed : skipBlanks ('\x7d' :: rest) = '\x7d' :: rest := rfl
  rw [readFields, opened]
  simp only [readKey, colon, read, closed]

theorem addField_of_new {done : List (String × Json)} {key : String}
    (new : key ∉ done.map Prod.fst) (value : Json) :
    addField done key value = (key, value) :: done := by
  unfold addField
  rw [List.filter_eq_self.mpr]
  intro entry member
  refine bne_iff_ne.mpr fun same => new ?_
  exact same ▸ List.mem_map_of_mem member

/-! ## Reading what was written -/

theorem endsNumeral_cons {first : Char} (other : isNumeralChar first = false) (rest : List Char) :
    EndsNumeral (first :: rest) := by
  rintro character ⟨⟩
  exact other

/-- A value is read in front of any text that does not prolong it, if its depth may be as much
as the length of its text. -/
structure Reads (value : Json) : Prop where
  begins : ∀ rest, EndsNumeral rest → BeginsValue (chars value ++ rest)
  read : ∀ fuel rest, EndsNumeral rest → (chars value).length ≤ fuel →
    readValue (fuel + 1) (chars value ++ rest) = some (settled value, rest)

def ReadsItems (items : List Json) : Prop :=
  ∀ fuel done rest, (Text.join [','] (itemsChars items)).length < fuel →
    BeginsValue (Text.join [','] (itemsChars items) ++ ']' :: rest) ∧
      readItems (fuel + 1) done (Text.join [','] (itemsChars items) ++ ']' :: rest) =
        some (done.reverse ++ settledItems items, rest)

def ReadsFields (fields : List (String × Json)) : Prop :=
  ∀ fuel done rest, (Text.join [','] (fieldsChars fields)).length < fuel →
    (done.map Prod.fst ++ fields.map Prod.fst).Nodup →
      ∃ quoted, Text.join [','] (fieldsChars fields) ++ '\x7d' :: rest = '"' :: quoted ∧
        readFields (fuel + 1) done ('"' :: quoted) =
          some (done.reverse ++ settledFields fields, rest)

theorem reads_of_numeral {value : Json}
    (isNumeral : ∀ character ∈ chars value, isNumeralChar character = true)
    (read : readNumeral (chars value) = some (settled value)) : Reads value where
  begins _ ends := (readValue_numeral 0 isNumeral read ends).1
  read fuel _ ends _ := (readValue_numeral fuel isNumeral read ends).2

/-- A value that begins with a mark of its own. -/
theorem reads_of_mark {value : Json} {first : Char} {others : List Char}
    (written : chars value = first :: others) (notEnd : first ≠ ']')
    (notBlank : (first == ' ' || first == '\n' || first == '\r' || first == '\t') = false)
    (read : ∀ fuel rest, others.length < fuel →
      readValue (fuel + 1) (first :: (others ++ rest)) = some (settled value, rest)) :
    Reads value where
  begins rest _ := by
    rw [written]
    exact beginsValue_cons _ notEnd notBlank
  read fuel rest _ enough := by
    rw [written] at *
    exact read fuel rest enough

theorem reads_null : Reads null :=
  reads_of_mark rfl (by decide) rfl fun _ _ _ => rfl

theorem reads_bool (value : Bool) : Reads (bool value) := by
  cases value with
  | true => exact reads_of_mark rfl (by decide) rfl fun _ _ _ => rfl
  | false => exact reads_of_mark rfl (by decide) rfl fun _ _ _ => rfl

theorem reads_number (value : Float) : Reads (number value) := by
  by_cases finite : value.isFinite = true
  · have written : chars (number value) = NumberLayout.interchange.write value := if_pos finite
    refine reads_of_numeral ?_ ?_
    · rw [written]
      exact isNumeralChar_write finite
    · rw [written, readNumeral_write finite, settled, if_pos finite]
  · have written : chars (number value) = chars null := if_neg finite
    have read : settled (number value) = null := if_neg finite
    exact ⟨written ▸ reads_null.begins, by rw [written, read]; exact reads_null.read⟩

theorem reads_string (text : String) : Reads (string text) := by
  refine reads_of_mark rfl (by decide) rfl fun fuel rest _ => ?_
  obtain ⟨quoted, same, read⟩ := readQuoted_quote text rest
  have inside : text.toList.flatMap escape ++ ['"'] ++ rest = quoted := (List.cons.inj same).2
  rw [inside]
  show (readQuoted [] quoted).map _ = _
  rw [read]
  rfl

theorem reads_list {items : List Json} (itemsRead : items ≠ [] → ReadsItems items) :
    Reads (list items) := by
  refine reads_of_mark rfl (by decide) rfl fun fuel rest enough => ?_
  by_cases empty : items = []
  · rw [empty]
    rfl
  · rw [List.length_append, List.length_singleton] at enough
    obtain ⟨fuel, rfl⟩ := Nat.exists_eq_succ_of_ne_zero (Nat.ne_of_gt (Nat.zero_lt_of_lt enough))
    obtain ⟨begins, read⟩ := itemsRead empty fuel [] rest (Nat.lt_of_succ_lt_succ enough)
    rw [List.append_assoc, List.singleton_append, readValue_list _ begins, read]
    rfl

theorem reads_record {fields : List (String × Json)} (distinct : (fields.map Prod.fst).Nodup)
    (fieldsRead : fields ≠ [] → ReadsFields fields) : Reads (record fields) := by
  refine reads_of_mark rfl (by decide) rfl fun fuel rest enough => ?_
  by_cases empty : fields = []
  · rw [empty]
    rfl
  · rw [List.length_append, List.length_singleton] at enough
    obtain ⟨fuel, rfl⟩ := Nat.exists_eq_succ_of_ne_zero (Nat.ne_of_gt (Nat.zero_lt_of_lt enough))
    obtain ⟨quoted, same, read⟩ :=
      fieldsRead empty fuel [] rest (Nat.lt_of_succ_lt_succ enough) distinct
    rw [List.append_assoc, List.singleton_append, same, readValue_record, read]
    rfl

theorem readsItems_cons {item : Json} {items : List Json} (itemReads : Reads item)
    (itemsRead : items ≠ [] → ReadsItems items) : ReadsItems (item :: items) := by
  intro fuel done rest enough
  obtain ⟨fuel, rfl⟩ := Nat.exists_eq_succ_of_ne_zero (Nat.ne_of_gt (Nat.zero_lt_of_lt enough))
  by_cases last : items = []
  · subst last
    have ends : EndsNumeral (']' :: rest) := endsNumeral_cons rfl rest
    have read := itemReads.read fuel _ ends (Nat.le_of_lt_succ enough)
    refine ⟨itemReads.begins _ ends, (readItems_of_last read done).trans ?_⟩
    rw [List.reverse_cons]
    rfl
  · rw [itemsChars, join_cons _ (itemsChars_ne_nil last), List.length_append,
      List.length_cons] at enough
    rw [itemsChars, join_cons _ (itemsChars_ne_nil last), List.append_assoc, List.cons_append]
    generalize joined : Text.join [','] (itemsChars items) ++ ']' :: rest = others
    have ends : EndsNumeral (',' :: others) := endsNumeral_cons rfl others
    have read := itemReads.read fuel _ ends (by omega)
    refine ⟨itemReads.begins _ ends, (readItems_of_readValue read done).trans ?_⟩
    have readOthers := (itemsRead last fuel (settled item :: done) rest (by omega)).2
    rw [joined] at readOthers
    rw [readOthers, List.reverse_cons, List.append_assoc]
    rfl

theorem readsFields_cons {key : String} {value : Json} {fields : List (String × Json)}
    (valueReads : Reads value) (fieldsRead : fields ≠ [] → ReadsFields fields) :
    ReadsFields ((key, value) :: fields) := by
  intro fuel done rest enough distinct
  obtain ⟨fuel, rfl⟩ := Nat.exists_eq_succ_of_ne_zero (Nat.ne_of_gt (Nat.zero_lt_of_lt enough))
  have new : key ∉ done.map Prod.fst := fun old =>
    (List.disjoint_of_nodup_append distinct) old List.mem_cons_self
  have added := addField_of_new new (settled value)
  by_cases last : fields = []
  · subst last
    have written : Text.join [','] (fieldsChars [(key, value)]) =
        quote key ++ ':' :: chars value := rfl
    rw [written, List.length_append, List.length_cons] at enough
    rw [written, List.append_assoc, List.cons_append]
    obtain ⟨quoted, same, readKey⟩ := readQuoted_quote key (':' :: (chars value ++ '\x7d' :: rest))
    have ends : EndsNumeral ('\x7d' :: rest) := endsNumeral_cons rfl rest
    have read := valueReads.read fuel _ ends (by omega)
    refine ⟨quoted, same, (readFields_of_last readKey read done).trans ?_⟩
    rw [added, List.reverse_cons]
    rfl
  · rw [fieldsChars, join_cons _ (fieldsChars_ne_nil last), List.length_append, List.length_append,
      List.length_cons, List.length_cons] at enough
    rw [fieldsChars, join_cons _ (fieldsChars_ne_nil last), List.append_assoc, List.append_assoc,
      List.cons_append, List.cons_append]
    generalize joined : Text.join [','] (fieldsChars fields) ++ '\x7d' :: rest = others
    obtain ⟨quoted, same, readKey⟩ := readQuoted_quote key (':' :: (chars value ++ ',' :: others))
    have ends : EndsNumeral (',' :: others) := endsNumeral_cons rfl others
    have read := valueReads.read fuel _ ends (by omega)
    refine ⟨quoted, same, (readFields_of_readValue readKey read done).trans ?_⟩
    have distinctThen : (((key, settled value) :: done).map Prod.fst ++
        fields.map Prod.fst).Nodup := List.nodup_middle.mp distinct
    obtain ⟨quotedOthers, sameOthers, readOthers⟩ :=
      fieldsRead last fuel ((key, settled value) :: done) rest (by omega) distinctThen
    rw [joined] at sameOthers
    rw [added, sameOthers, readOthers, List.reverse_cons, List.append_assoc]
    rfl

mutual

theorem reads_of_regular : ∀ value : Json, value.Regular → Reads value
  | null, _ => reads_null
  | bool value, _ => reads_bool value
  | integer value, fits =>
    reads_of_numeral (isNumeralChar_integerChars value) (readNumeral_integerChars fits)
  | number value, _ => reads_number value
  | string text, _ => reads_string text
  | list items, regular => reads_list (readsItems_of_regular items regular)
  | record fields, regular => reads_record regular.1 (readsFields_of_regular fields regular.2)

theorem readsItems_of_regular :
    ∀ items : List Json, RegularItems items → items ≠ [] → ReadsItems items
  | [], _ => nofun
  | item :: items, regular => fun _ =>
    readsItems_cons (reads_of_regular item regular.1) (readsItems_of_regular items regular.2)

theorem readsFields_of_regular : ∀ fields : List (String × Json), RegularFields fields →
    fields ≠ [] → ReadsFields fields
  | [], _ => nofun
  | (_, value) :: fields, regular => fun _ =>
    readsFields_cons (reads_of_regular value regular.1) (readsFields_of_regular fields regular.2)

end

/-- The text of a regular value is read as what it tells of the value. -/
theorem read_compact {value : Json} (regular : value.Regular) :
    read value.compact = some value.settled := by
  have whole := (reads_of_regular value regular).read value.chars.length [] nofun (Nat.le_refl _)
  rw [List.append_nil] at whole
  unfold read compact
  simp only [String.toList_ofList, whole]
  rfl

end ConicModel.Json
