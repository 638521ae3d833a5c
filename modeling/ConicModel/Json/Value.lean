import ConicModel.Decimal.Numeral
import ConicModel.Text.Split

/-!
Contract: JSON values and their compact text.

Owns:
- the value type, which keeps whole numbers apart from floating ones;
- the compact text of a value.

Does not own: reading a text, or the JSON form of any other type.

A number that is infinite or undefined has no JSON form of its own and is
written as `null`.
-/

namespace ConicModel

inductive Json where
  | null
  | bool (value : Bool)
  | integer (value : Int)
  | number (value : Float)
  | string (value : String)
  | list (items : List Json)
  | record (fields : List (String × Json))
deriving Inhabited

namespace Json

/-- The value stored under `key`; a missing field is `null`. -/
def field (key : String) : Json → Json
  | record fields => ((fields.find? fun entry => entry.1 == key).map Prod.snd).getD null
  | _ => null

def isNull : Json → Bool
  | null => true
  | _ => false

def hexDigit (value : Nat) : Char :=
  (Nat.toDigits 16 value).headD '0'

def escape (character : Char) : List Char :=
  if character = '"' then ['\\', '"']
  else if character = '\\' then ['\\', '\\']
  else if character = '\n' then ['\\', 'n']
  else if character = '\r' then ['\\', 'r']
  else if character = '\t' then ['\\', 't']
  else if character.toNat = 8 then ['\\', 'b']
  else if character.toNat = 12 then ['\\', 'f']
  else if character.toNat < 32 then
    ['\\', 'u', '0', '0', hexDigit (character.toNat / 16), hexDigit (character.toNat % 16)]
  else [character]

def quote (text : String) : List Char :=
  '"' :: (text.toList.flatMap escape ++ ['"'])

/-- A floating number; `null` if it is not finite. -/
def numberChars (value : Float) : List Char :=
  if value.isFinite then NumberLayout.interchange.write value else ['n', 'u', 'l', 'l']

def integerChars (value : Int) : List Char :=
  (if value < 0 then ['-'] else []) ++ decimalDigits value.natAbs

mutual

def chars : Json → List Char
  | null => ['n', 'u', 'l', 'l']
  | bool true => ['t', 'r', 'u', 'e']
  | bool false => ['f', 'a', 'l', 's', 'e']
  | integer value => integerChars value
  | number value => numberChars value
  | string value => quote value
  | list items => '[' :: (Text.join [','] (itemsChars items) ++ [']'])
  | record fields => '\x7b' :: (Text.join [','] (fieldsChars fields) ++ ['\x7d'])

def itemsChars : List Json → List (List Char)
  | [] => []
  | item :: items => chars item :: itemsChars items

def fieldsChars : List (String × Json) → List (List Char)
  | [] => []
  | (key, value) :: fields => (quote key ++ ':' :: chars value) :: fieldsChars fields

end

def compact (value : Json) : String :=
  String.ofList value.chars

end Json

end ConicModel
