import ConicModel.Expr.Basic

/-!
Contract: decision variables and objectives.

Owns:
- bounds, categories and the objective with its sense;
- the consistency of bounds by themselves.

Does not own: ids, names, or the rules for changing bounds.
-/

namespace ConicModel

inductive Sense where
  | minimize
  | maximize
deriving DecidableEq

def Sense.word : Sense → String
  | .minimize => "min"
  | .maximize => "max"

/-- Bounds of a variable; an absent bound does not restrict it.  A fixed
variable carries its value and no other bound. -/
structure Bounds (K : Type) where
  lower : Option K := none
  upper : Option K := none
  fixed : Option K := none
deriving DecidableEq, BEq

namespace Bounds

variable {K : Type}

def free : Bounds K := {}

def fixedAt (value : K) : Bounds K := { fixed := some value }

def isFixed (bounds : Bounds K) : Bool :=
  bounds.fixed.isSome

def isBounded (bounds : Bounds K) : Bool :=
  bounds.lower.isSome || bounds.upper.isSome

def isFree (bounds : Bounds K) : Bool :=
  !bounds.isFixed && !bounds.isBounded

def hasUndefined [ExtendedNumber K] (bounds : Bounds K) : Bool :=
  bounds.lower.any ExtendedNumber.isUndefined || bounds.upper.any ExtendedNumber.isUndefined ||
    bounds.fixed.any ExtendedNumber.isUndefined

/-- Whether both ends are present and the lower one is above the upper one. -/
def isCrossed [ExtendedNumber K] (bounds : Bounds K) : Bool :=
  match bounds.lower, bounds.upper with
  | some lower, some upper => ExtendedNumber.exceeds lower upper
  | _, _ => false

end Bounds

inductive Category where
  | continuous
  | integer
  | binary
deriving DecidableEq

def Category.word : Category → String
  | .continuous => "continuous"
  | .integer => "integer"
  | .binary => "binary"

structure Variable (K : Type) where
  bounds : Bounds K
  category : Category
deriving DecidableEq, BEq

structure Objective (K : Type) where
  sense : Sense
  expr : Expr K
deriving DecidableEq

end ConicModel
