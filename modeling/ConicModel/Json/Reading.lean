import ConicModel.Json.Value

/-!
Contract: reading the text of a JSON value.

Owns:
- the grammar of JSON, with blanks between its parts;
- the rule that a number without point and power is whole when it fits into
  64 bits, and floating otherwise; minus zero is floating;
- the rule that of several fields with one key the last one counts.

Does not own: the meaning of a value.
-/

namespace ConicModel.Json

def skipBlanks (text : List Char) : List Char :=
  text.dropWhile fun character =>
    character == ' ' || character == '\n' || character == '\r' || character == '\t'

def hexValue (character : Char) : Option Nat :=
  if character.isDigit then some (character.toNat - '0'.toNat)
  else if 'a' ≤ character ∧ character ≤ 'f' then some (character.toNat - 'a'.toNat + 10)
  else if 'A' ≤ character ∧ character ≤ 'F' then some (character.toNat - 'A'.toNat + 10)
  else none

def hexUnit (first second third fourth : Char) : Option Nat := do
  let a ← hexValue first
  let b ← hexValue second
  let c ← hexValue third
  let d ← hexValue fourth
  return ((a * 16 + b) * 16 + c) * 16 + d

/-- The character that a pair of surrogate units stands for. -/
def surrogatePair (high low : Nat) : Option Char :=
  if 0xD800 ≤ high ∧ high < 0xDC00 ∧ 0xDC00 ≤ low ∧ low < 0xE000 then
    some (Char.ofNat (0x10000 + (high - 0xD800) * 0x400 + (low - 0xDC00)))
  else none

/-- The character that one unit stands for; a surrogate alone stands for none. -/
def singleUnit (unit : Nat) : Option Char :=
  if 0xD800 ≤ unit ∧ unit < 0xE000 then none else some (Char.ofNat unit)

/-- Reads up to the closing quote; `done` holds the characters read, the last
one first. -/
def readQuoted (done : List Char) : List Char → Option (String × List Char)
  | [] => none
  | '"' :: rest => some (String.ofList done.reverse, rest)
  | '\\' :: 'u' :: a :: b :: c :: d :: rest =>
    match hexUnit a b c d with
    | none => none
    | some first =>
      match singleUnit first with
      | some character => readQuoted (character :: done) rest
      | none =>
        match rest with
        | '\\' :: 'u' :: e :: f :: g :: h :: rest =>
          match (hexUnit e f g h).bind (surrogatePair first) with
          | some character => readQuoted (character :: done) rest
          | none => none
        | _ => none
  | '\\' :: 'n' :: rest => readQuoted ('\n' :: done) rest
  | '\\' :: 'r' :: rest => readQuoted ('\r' :: done) rest
  | '\\' :: 't' :: rest => readQuoted ('\t' :: done) rest
  | '\\' :: 'b' :: rest => readQuoted (Char.ofNat 8 :: done) rest
  | '\\' :: 'f' :: rest => readQuoted (Char.ofNat 12 :: done) rest
  | '\\' :: '"' :: rest => readQuoted ('"' :: done) rest
  | '\\' :: '/' :: rest => readQuoted ('/' :: done) rest
  | '\\' :: '\\' :: rest => readQuoted ('\\' :: done) rest
  | '\\' :: _ => none
  | character :: rest =>
    if character.toNat < 32 then none else readQuoted (character :: done) rest

/-- Whether digits form a whole part: no leading zero before other digits. -/
def isWholePart : List Char → Bool
  | [] => false
  | ['0'] => true
  | '0' :: _ => false
  | digits => digits.all Char.isDigit

def readUnsigned (negative : Bool) (unsigned : List Char) : Option Json :=
  let whole := unsigned.takeWhile Char.isDigit
  let fraction := Numeral.splitFraction (unsigned.drop whole.length)
  let pointed := (unsigned.drop whole.length).head? = some '.'
  if !isWholePart whole || (pointed && fraction.1 = []) then none
  else if whole.length = unsigned.length then
    let size := digitsValue 0 whole
    let value : Int := if negative then -(size : Int) else size
    if negative ∧ size = 0 then some (number (-0.0))
    else if size < Nat.pow 2 64 ∧ (negative → size ≤ Nat.pow 2 63) then some (integer value)
    else some (number (Binary64.ofInt value))
  else
    match Numeral.readDecimal unsigned with
    | some decimal =>
      if decimal.pattern = Binary64.infinityPattern then none
      else some (number (Binary64.toFloat negative decimal.pattern))
    | none => none

/-- The number that a run of number characters stands for. -/
def readNumeral : List Char → Option Json
  | '-' :: rest => readUnsigned true rest
  | numeral => readUnsigned false numeral

def isNumeralChar (character : Char) : Bool :=
  character.isDigit || character == '-' || character == '+' || character == '.' ||
    character == 'e' || character == 'E'

/-- Fields, the last one first, with one more; it replaces one of the same key. -/
def addField (done : List (String × Json)) (key : String) (value : Json) :
    List (String × Json) :=
  (key, value) :: done.filter fun entry => entry.1 != key

mutual

/-- Reads one value at the start of the text, to a nesting depth of `fuel`. -/
def readValue : Nat → List Char → Option (Json × List Char)
  | 0, _ => none
  | fuel + 1, text =>
    match skipBlanks text with
    | 'n' :: 'u' :: 'l' :: 'l' :: rest => some (null, rest)
    | 't' :: 'r' :: 'u' :: 'e' :: rest => some (bool true, rest)
    | 'f' :: 'a' :: 'l' :: 's' :: 'e' :: rest => some (bool false, rest)
    | '"' :: rest => (readQuoted [] rest).map fun (content, rest) => (string content, rest)
    | '[' :: rest =>
      match skipBlanks rest with
      | ']' :: rest => some (list [], rest)
      | rest => (readItems fuel [] rest).map fun (items, rest) => (list items, rest)
    | '\x7b' :: rest =>
      match skipBlanks rest with
      | '\x7d' :: rest => some (record [], rest)
      | rest => (readFields fuel [] rest).map fun (fields, rest) => (record fields, rest)
    | rest =>
      (readNumeral (rest.takeWhile isNumeralChar)).map fun value =>
        (value, rest.dropWhile isNumeralChar)

/-- Reads the items of a list up to its closing bracket. -/
def readItems : Nat → List Json → List Char → Option (List Json × List Char)
  | 0, _, _ => none
  | fuel + 1, done, text =>
    match readValue fuel text with
    | none => none
    | some (item, rest) =>
      match skipBlanks rest with
      | ',' :: rest => readItems fuel (item :: done) rest
      | ']' :: rest => some ((item :: done).reverse, rest)
      | _ => none

def readFields :
    Nat → List (String × Json) → List Char → Option (List (String × Json) × List Char)
  | 0, _, _ => none
  | fuel + 1, done, text =>
    match skipBlanks text with
    | '"' :: rest =>
      match readQuoted [] rest with
      | none => none
      | some (key, rest) =>
        match skipBlanks rest with
        | ':' :: rest =>
          match readValue fuel rest with
          | none => none
          | some (value, rest) =>
            match skipBlanks rest with
            | ',' :: rest => readFields fuel (addField done key value) rest
            | '\x7d' :: rest => some ((addField done key value).reverse, rest)
            | _ => none
        | _ => none
    | _ => none

end

/-- Reads a whole text as one value; the depth of a value is below the length
of its text. -/
def read (text : String) : Option Json :=
  let characters := text.toList
  match readValue (characters.length + 1) characters with
  | some (value, rest) => if skipBlanks rest = [] then some value else none
  | none => none

end ConicModel.Json
