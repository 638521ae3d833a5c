import ConicModel.Proofs.Form.JsonText
import ConicModel.Proofs.Model.Reachable

/-!
Contract: what becomes of sets and of bounds that are written and read again.

Owns:
- the numbers of a set and of bounds that a text cannot tell;
- the sets and bounds that come back, and what comes of the others, in every format.

Does not own: the format.

Checks let infinite ends of intervals and infinite bounds pass, and a text has `null` for them.
In bounds `null` is an absent number; in an interval it is none at all.
-/

namespace ConicModel

namespace ConstraintSet

def hasFiniteNumbers : ConstraintSet Float → Bool
  | lessThan bound => bound.isFinite
  | greaterThan bound => bound.isFinite
  | equalTo value => value.isFinite
  | interval lower upper => lower.isFinite && upper.isFinite
  | integer => true
  | zeroOne => true
  | cone _ _ => true

/-- Sizes are machine words, which are below `2 ^ 64`. -/
def SizeFits : ConstraintSet Float → Prop
  | cone _ size => size < 2 ^ 64
  | _ => True

/-- Intervals with an end that is not finite. -/
def IsUnbounded (set : ConstraintSet Float) : Prop :=
  ∃ lower upper, set = .interval lower upper ∧ (lower.isFinite = false ∨ upper.isFinite = false)

/-- The checks leave intervals as the only sets whose numbers may be infinite. -/
theorem hasFiniteNumbers_iff {set : ConstraintSet Float} (valid : set.validate = .ok ()) :
    set.hasFiniteNumbers = true ↔ ¬ set.IsUnbounded := by
  have bounded {value : Float} (checked : checkBound value = .ok ()) : value.isFinite = true := by
    unfold checkBound at checked
    split at checked
    · next finite => exact finite
    · cases checked
  cases set with
  | interval lower upper =>
    have ends : (interval lower upper).IsUnbounded ↔
        lower.isFinite = false ∨ upper.isFinite = false := by
      constructor
      · rintro ⟨_, _, ⟨⟩, infinite⟩
        exact infinite
      · exact fun infinite => ⟨lower, upper, rfl, infinite⟩
    rw [ends]
    show (lower.isFinite && upper.isFinite) = true ↔ _
    cases lower.isFinite <;> cases upper.isFinite <;> decide
  | lessThan bound => exact iff_of_true (bounded valid) nofun
  | greaterThan bound => exact iff_of_true (bounded valid) nofun
  | equalTo value => exact iff_of_true (bounded valid) nofun
  | integer => exact iff_of_true rfl nofun
  | zeroOne => exact iff_of_true rfl nofun
  | cone kind size => exact iff_of_true rfl nofun

end ConstraintSet

namespace Bounds

def hasFiniteNumbers (bounds : Bounds Float) : Bool :=
  bounds.lower.all Float.isFinite && bounds.upper.all Float.isFinite &&
    bounds.fixed.all Float.isFinite

/-- The bounds without the numbers that are not finite. -/
def settled (bounds : Bounds Float) : Bounds Float :=
  ⟨bounds.lower.filter Float.isFinite, bounds.upper.filter Float.isFinite,
    bounds.fixed.filter Float.isFinite⟩

theorem settled_eq_iff (bounds : Bounds Float) :
    bounds.settled = bounds ↔ bounds.hasFiniteNumbers = true := by
  obtain ⟨lower, upper, fixed⟩ := bounds
  have kept (value : Option Float) :
      value.filter Float.isFinite = value ↔ value.all Float.isFinite = true := by
    cases value <;> simp [Option.filter_some]
  unfold settled hasFiniteNumbers
  rw [Bounds.mk.injEq, kept, kept, kept, Bool.and_eq_true, Bool.and_eq_true, and_assoc]

end Bounds

namespace Interchange

/-! ## Values by way of their text -/

section Again

variable {format : Interchange} (numbers : format.Numbers) (derived : format.Derived)
include numbers derived

/-- A set comes back if its numbers are finite, and otherwise its text is refused. -/
theorem again_set {set : ConstraintSet Float} (fits : set.SizeFits) :
    format.set.again set = if set.hasFiniteNumbers then some set else none := by
  have bounded (value : Float) (build : Float → ConstraintSet Float) :
      (format.number.again value).map build =
        if value.isFinite then some (build value) else none := by
    rw [numbers.again_number]
    exact Option.map_if
  unfold Codec.again
  rw [derived.write_set]
  cases set with
  | lessThan bound => exact (derived.read_lessThan bound).trans (bounded bound .lessThan)
  | greaterThan bound => exact (derived.read_greaterThan bound).trans (bounded bound .greaterThan)
  | equalTo value => exact (derived.read_equalTo value).trans (bounded value .equalTo)
  | interval lower upper =>
    refine (derived.read_interval lower upper).trans ?_
    rw [numbers.again_number, numbers.again_number]
    show _ = if lower.isFinite && upper.isFinite then some (ConstraintSet.interval lower upper)
      else none
    cases lower.isFinite <;> cases upper.isFinite <;> rfl
  | integer => exact derived.read_integer
  | zeroOne => exact derived.read_zeroOne
  | cone kind size =>
    refine (derived.read_cone kind size fits).trans ?_
    rw [numbers.again_word size fits]
    rfl

/-- Of bounds the finite numbers come back. -/
theorem again_bounds (bounds : Bounds Float) :
    format.bounds.again bounds = some bounds.settled := by
  unfold Codec.again
  rw [derived.write_bounds, derived.read_bounds, numbers.again_optional, numbers.again_optional,
    numbers.again_optional]
  rfl

/-! ## Accepted values -/

/-- A set that passes its checks comes back unless it is an interval with an infinite end, whose
text is refused.  Bounds always come back, but without their infinite numbers. -/
theorem recovered_unless_infinite {set : ConstraintSet Float} (fits : set.SizeFits)
    (valid : set.validate = .ok ()) (bounds : Bounds Float) :
    ((¬ set.IsUnbounded → format.set.again set = some set) ∧
      (set.IsUnbounded → format.set.again set = none)) ∧
    format.bounds.again bounds = some bounds.settled ∧
      (format.bounds.again bounds = some bounds ↔ bounds.hasFiniteNumbers = true) := by
  have finite_iff := ConstraintSet.hasFiniteNumbers_iff valid
  refine ⟨⟨fun isBounded => ?_, fun isUnbounded => ?_⟩, again_bounds numbers derived bounds, ?_⟩
  · rw [again_set numbers derived fits, if_pos (finite_iff.mpr isBounded)]
  · have infinite := mt finite_iff.mp (not_not_intro isUnbounded)
    rw [again_set numbers derived fits, if_neg infinite]
  · rw [again_bounds numbers derived, Option.some.injEq, bounds.settled_eq_iff]

end Again

def halfLine : ConstraintSet Float :=
  .interval (-(1 / 0)) 5

/-- The bounds of a number up to five, with the lower one written out. -/
def halfBounds : Bounds Float :=
  ⟨some (-(1 / 0)), some 5, none⟩

theorem validate_halfLine : halfLine.validate = .ok () := by
  unfold halfLine ConstraintSet.validate
  exact if_neg (by decide +kernel)

theorem isUnbounded_halfLine : halfLine.IsUnbounded :=
  ⟨_, _, rfl, .inl (by decide +kernel)⟩

/-- A cone comes back, and so do bounds with finite numbers; the interval and the bounds with an
infinite end do not. -/
theorem recovered_unless_infinite_halfLine :
    (json.Numbers ∧ json.Derived) ∧
    (halfLine.SizeFits ∧ halfLine.validate = .ok () ∧ json.set.again halfLine = none ∧
      json.bounds.again halfBounds = some ⟨none, some 5, none⟩) ∧
    json.set.again (.cone .semidefiniteSquare 3) = some (.cone .semidefiniteSquare 3) ∧
      json.bounds.again ⟨some (-0.5), none, none⟩ = some ⟨some (-0.5), none, none⟩ := by
  have sizeFits : halfLine.SizeFits := trivial
  have small : (ConstraintSet.cone .semidefiniteSquare 3 : ConstraintSet Float).SizeFits := by
    show 3 < 2 ^ 64
    decide
  obtain ⟨⟨-, refused⟩, dropped, -⟩ :=
    recovered_unless_infinite numbers_json derived_json sizeFits validate_halfLine halfBounds
  obtain ⟨⟨recovered, -⟩, -, kept⟩ :=
    recovered_unless_infinite numbers_json derived_json small rfl ⟨some (-0.5), none, none⟩
  refine ⟨⟨numbers_json, derived_json⟩,
    ⟨sizeFits, validate_halfLine, refused isUnbounded_halfLine, dropped.trans ?_⟩,
    recovered nofun, kept.mpr ?_⟩
  · decide +kernel
  · decide +kernel

/-- In every format the text of the accepted interval is refused, and the accepted bounds come
back as others. -/
theorem not_recovered_halfLine :
    (halfLine.validate = .ok () ∧
      ((Model.empty : Model Float).apply (.addVariable halfBounds .continuous)).isOk = true) ∧
    (∀ format : Interchange, format.Numbers → format.Derived →
      format.set.again halfLine = none ∧
        format.bounds.again halfBounds = some ⟨none, some 5, none⟩) ∧
    (json.Numbers ∧ json.Derived ∧
      json.set.write halfLine = "\x7b\"Interval\":[null,5.0]\x7d") := by
  refine ⟨⟨validate_halfLine, by decide +kernel⟩, fun format numbers derived => ⟨?_, ?_⟩,
    numbers_json, derived_json, by decide +kernel⟩
  · have sizeFits : halfLine.SizeFits := trivial
    rw [again_set numbers derived sizeFits]
    exact if_neg (by decide +kernel)
  · rw [again_bounds numbers derived]
    decide +kernel

end Interchange

end ConicModel
