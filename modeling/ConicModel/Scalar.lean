/-!
Contract: what a model asks of its numbers beyond ring operations.

Owns:
- the class of number types that may hold infinite and undefined values;
- its instance for binary64 numbers.

Does not own: arithmetic, which comes from the classes of the core library.
-/

namespace ConicModel

/-- A number type with an order test, in which some values may be infinite or
undefined.  Exact number types have neither. -/
class ExtendedNumber (K : Type) where
  /-- Whether the number is neither infinite nor undefined. -/
  isFinite : K → Bool
  /-- Whether the number is undefined. -/
  isUndefined : K → Bool
  /-- Whether the first number is strictly above the second. -/
  exceeds : K → K → Bool

instance : ExtendedNumber Float where
  isFinite := Float.isFinite
  isUndefined := Float.isNaN
  exceeds := fun left right => left > right

end ConicModel
