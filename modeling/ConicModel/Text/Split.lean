/-!
Contract: cutting a text into the pieces that a line-oriented format is made of.

Owns:
- the class of blank characters;
- trimming, words, and cuts at the first place where a literal occurs.

Does not own: what the pieces mean.
-/

namespace ConicModel.Text

/-- Blank characters: those with the property `White_Space` of the character
standard, which reaches beyond ASCII. -/
def isBlank (character : Char) : Bool :=
  let code := character.toNat
  (9 ≤ code && code ≤ 13) || code == 0x20 || code == 0x85 || code == 0xA0 || code == 0x1680 ||
    (0x2000 ≤ code && code ≤ 0x200A) || code == 0x2028 || code == 0x2029 || code == 0x202F ||
    code == 0x205F || code == 0x3000

def trimStart (text : List Char) : List Char :=
  text.dropWhile isBlank

def trimEnd (text : List Char) : List Char :=
  (text.reverse.dropWhile isBlank).reverse

def trim (text : List Char) : List Char :=
  trimEnd (trimStart text)

/-- The maximal runs of characters that are not blank, in order. -/
def words (text : List Char) : List (List Char) :=
  (text.splitOnP isBlank).filter (· ≠ [])

/-- What follows `literal`, if the text starts with it. -/
def afterLiteral : (literal text : List Char) → Option (List Char)
  | [], text => some text
  | _ :: _, [] => none
  | expected :: literal, character :: text =>
    if expected = character then afterLiteral literal text else none

def beforeLast (last : Char) (text : List Char) : Option (List Char) :=
  if text.getLast? = some last then some text.dropLast else none

/-- What stands before and after the first occurrence of `literal`. -/
def cut (literal : List Char) : List Char → Option (List Char × List Char)
  | [] => (afterLiteral literal []).map fun after => ([], after)
  | character :: text =>
    match afterLiteral literal (character :: text) with
    | some after => some ([], after)
    | none => (cut literal text).map fun (before, after) => (character :: before, after)

/-- The pieces between commas, each trimmed. -/
def commaPieces (text : List Char) : List (List Char) :=
  (text.splitOn ',').map trim

/-- The pieces between commas that hold more than blanks. -/
def filledPieces (text : List Char) : List (List Char) :=
  (commaPieces text).filter (· ≠ [])

def join (separator : List Char) : List (List Char) → List Char
  | [] => []
  | [piece] => piece
  | piece :: others => piece ++ separator ++ join separator others

end ConicModel.Text
