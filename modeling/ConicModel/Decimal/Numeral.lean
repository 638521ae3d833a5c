import ConicModel.Decimal.Shortest

/-!
Contract: numbers as text.

Owns:
- the grammar of numerals: an optional sign, then digits with an optional
  point and an optional power of ten, or one of the words for infinity and for
  an undefined number, in any mixture of cases;
- the layouts in which a number is written, each one a record of decisions;
- unsigned sizes as text.

Does not own: the digits of a number, which come from `Decimal.shortest`.

A number written in the layout `plain` or `display` is a numeral, and reads
back as the same number.
-/

namespace ConicModel

def decimalDigits (number : Nat) : List Char :=
  Nat.toDigits 10 number

/-- Value of a run of decimal digits, continuing from `start`. -/
def digitsValue (start : Nat) (digits : List Char) : Nat :=
  digits.foldl (fun value digit => 10 * value + (digit.toNat - '0'.toNat)) start

/-- A number as written, before it is rounded. -/
inductive Numeral where
  | finite (negative : Bool) (decimal : Decimal)
  | infinite (negative : Bool)
  | undefined
deriving DecidableEq

namespace Numeral

def splitSign : List Char → Bool × List Char
  | '-' :: rest => (true, rest)
  | '+' :: rest => (false, rest)
  | text => (false, text)

/-- The power of ten after a mantissa: absent, or `e` with at least one digit. -/
def readPower : List Char → Option Int
  | [] => some 0
  | mark :: rest =>
    if mark = 'e' ∨ mark = 'E' then
      let (negative, digits) := splitSign rest
      if digits ≠ [] ∧ digits.all Char.isDigit then
        let size : Int := digitsValue 0 digits
        some (if negative then -size else size)
      else none
    else none

def splitFraction : List Char → List Char × List Char
  | '.' :: rest => (rest.takeWhile Char.isDigit, rest.dropWhile Char.isDigit)
  | text => ([], text)

/-- An unsigned decimal with at least one digit before or after the point. -/
def readDecimal (text : List Char) : Option Decimal :=
  let whole := text.takeWhile Char.isDigit
  let (fraction, rest) := splitFraction (text.dropWhile Char.isDigit)
  if whole = [] ∧ fraction = [] then none
  else
    (readPower rest).map fun power =>
      ⟨digitsValue (digitsValue 0 whole) fraction, power - (fraction.length : Int)⟩

def readWord (negative : Bool) (text : List Char) : Option Numeral :=
  let word := String.ofList (text.map Char.toLower)
  if word = "inf" ∨ word = "infinity" then some (.infinite negative)
  else if word = "nan" then some .undefined
  else none

def read (text : List Char) : Option Numeral :=
  let (negative, rest) := splitSign text
  match readDecimal rest with
  | some decimal => some (.finite negative decimal)
  | none => readWord negative rest

def toFloat : Numeral → Float
  | .finite negative decimal => Binary64.toFloat negative decimal.pattern
  | .infinite negative => Binary64.toFloat negative Binary64.infinityPattern
  | .undefined => 0.0 / 0.0

end Numeral

/-- Reads a number; the text must be a numeral from its first to its last
character. -/
def readNumber (text : List Char) : Option Float :=
  (Numeral.read text).map Numeral.toFloat

/-- Reads a size: an optional plus sign and digits, below `2 ^ 64`. -/
def readSize (text : List Char) : Option Nat :=
  let digits := match text with
    | '+' :: rest => rest
    | _ => text
  if digits ≠ [] ∧ digits.all Char.isDigit then
    let size := digitsValue 0 digits
    if size < Nat.pow 2 64 then some size else none
  else none

/-- The decisions of a written form of numbers. -/
structure NumberLayout where
  /-- Whether a number whose first digit stands at this power of ten is
  written as a mantissa with a power of ten. -/
  usesPower : Int → Bool
  /-- Whether an integral number written without a power keeps `.0`. -/
  keepsPoint : Bool
  /-- Whether a nonnegative power carries a plus sign. -/
  signsPower : Bool
  /-- Which of two equally near decimals is written. -/
  tie : Decimal.Tie

namespace NumberLayout

/-- Positional from `0.0001` up to, but not including, `10 ^ 16`. -/
def plain : NumberLayout where
  usesPower := fun power => power < -4 || 16 ≤ power
  keepsPoint := true
  signsPower := false
  tie := .up

/-- Always positional, and integral numbers without a point. -/
def display : NumberLayout where
  usesPower := fun _ => false
  keepsPoint := false
  signsPower := false
  tie := .up

/-- Positional from `0.00001` up to, but not including, `10 ^ 16`; a positive
power carries its sign. -/
def interchange : NumberLayout where
  usesPower := fun power => power < -5 || 16 ≤ power
  keepsPoint := true
  signsPower := true
  tie := .even

/-- Digits with their point, and no power of ten. -/
def positional (layout : NumberLayout) (digits : List Char) (exponent power : Int) : List Char :=
  if 0 ≤ exponent then
    digits ++ List.replicate exponent.toNat '0' ++ (if layout.keepsPoint then ['.', '0'] else [])
  else if 0 ≤ power then
    digits.take (power.toNat + 1) ++ '.' :: digits.drop (power.toNat + 1)
  else
    '0' :: '.' :: (List.replicate (-power - 1).toNat '0' ++ digits)

/-- One digit before the point, the others after it, then the power of ten. -/
def scientific (layout : NumberLayout) (digits : List Char) (power : Int) : List Char :=
  let mantissa := match digits with
    | first :: second :: others => first :: '.' :: second :: others
    | _ => digits
  let sign := if power < 0 then ['-'] else if layout.signsPower then ['+'] else []
  mantissa ++ 'e' :: (sign ++ decimalDigits power.natAbs)

def writeDecimal (layout : NumberLayout) (decimal : Decimal) : List Char :=
  if decimal.digits = 0 then
    if layout.keepsPoint then ['0', '.', '0'] else ['0']
  else
    let digits := decimalDigits decimal.digits
    let power := decimal.exponent + (digits.length : Int) - 1
    if layout.usesPower power then layout.scientific digits power
    else layout.positional digits decimal.exponent power

/-- Writes a number with the fewest digits that read back as it. -/
def write (layout : NumberLayout) (value : Float) : List Char :=
  if value.isNaN then ['N', 'a', 'N']
  else
    let sign := if Binary64.isNegative value then ['-'] else []
    let target := Binary64.magnitudePattern value
    if target = Binary64.infinityPattern then sign ++ ['i', 'n', 'f']
    else sign ++ layout.writeDecimal (Decimal.shortest layout.tie target)

end NumberLayout

def numberText (value : Float) : String :=
  String.ofList (NumberLayout.plain.write value)

def displayText (value : Float) : String :=
  String.ofList (NumberLayout.display.write value)

end ConicModel
