import AdaptiveView.Proofs.Viewport.VisibleRange

/-!
# Exact coordinates

Coordinates are exact where comparing them is a total order of all values but the undefined one, and
only equal values compare as the same.  The rational numbers are exact.  So are the rational numbers
with the infinities and the undefined value that doubles have besides; they tell what becomes of a
position or a height that is no number.
-/

set_option autoImplicit false

namespace AdaptiveView

open Coordinate

/-- Values that are at most themselves are the defined ones. -/
class ExactCoordinate (α : Type) [Coordinate α] : Prop where
  isFinite_zero : isFinite (zero : α) = true
  le_self_of_isFinite {x : α} : isFinite x = true → le x x = true
  le_self_of_le {x y : α} : le x y = true → le y y = true
  le_of_lt {x y : α} : lt x y = true → le x y = true
  lt_eq_not_le {x y : α} : le x x = true → le y y = true → lt x y = !le y x
  eq_of_same {x y : α} : same x y = true → x = y

instance : ExactCoordinate Rat where
  isFinite_zero := rfl
  le_self_of_isFinite _ := le_iff.mpr le_rfl
  le_self_of_le _ := le_iff.mpr le_rfl
  le_of_lt before := le_iff.mpr (lt_iff.mp before).le
  lt_eq_not_le {x y} _ _ := by
    rw [Bool.eq_iff_iff, Bool.not_eq_true', lt_iff, ← Bool.not_eq_true, le_iff, not_le]
  eq_of_same := of_decide_eq_true

/-! ## Rational numbers and what is beyond them -/

inductive Extended where
  | number (value : Rat)
  | plusInfinity
  | minusInfinity
  | undefined
  deriving DecidableEq

namespace Extended

/-- Infinities that point in opposite directions have no sum. -/
def add : Extended → Extended → Extended
  | .number x, .number y => .number (x + y)
  | .undefined, _ => .undefined
  | _, .undefined => .undefined
  | .plusInfinity, .minusInfinity => .undefined
  | .minusInfinity, .plusInfinity => .undefined
  | .plusInfinity, _ => .plusInfinity
  | _, .plusInfinity => .plusInfinity
  | .minusInfinity, _ => .minusInfinity
  | _, .minusInfinity => .minusInfinity

def negate : Extended → Extended
  | .number x => .number (-x)
  | .plusInfinity => .minusInfinity
  | .minusInfinity => .plusInfinity
  | .undefined => .undefined

/-- The undefined value is before none and after none. -/
def before : Extended → Extended → Bool
  | .undefined, _ => false
  | _, .undefined => false
  | .number x, .number y => decide (x < y)
  | .plusInfinity, _ => false
  | _, .plusInfinity => true
  | _, .minusInfinity => false
  | .minusInfinity, _ => true

/-- The undefined value is not even the same as itself. -/
def equals (x y : Extended) : Bool :=
  x ≠ .undefined && x = y

def isNumber : Extended → Bool
  | .number _ => true
  | _ => false

end Extended

instance : Coordinate Extended where
  zero := .number 0
  ofNat n := .number n
  add := Extended.add
  sub x y := x.add y.negate
  lt := Extended.before
  le x y := x.before y || x.equals y
  same := Extended.equals
  isFinite := Extended.isNumber

theorem Extended.le_number (x y : Rat) :
    le (Extended.number x) (Extended.number y) = decide (x ≤ y) := by
  simp [le, Extended.before, Extended.equals, le_iff_lt_or_eq]

theorem Extended.le_self {x : Extended} (defined : x ≠ .undefined) : le x x = true := by
  simp [le, Extended.equals, defined]

instance : ExactCoordinate Extended where
  isFinite_zero := rfl
  le_self_of_isFinite finite := by
    apply Extended.le_self
    rintro rfl
    cases finite
  le_self_of_le {x y} ordered := by
    apply Extended.le_self
    rintro rfl
    cases x <;> cases ordered
  le_of_lt {x y} before := by
    simp only [le, lt] at before ⊢
    rw [before, Bool.true_or]
  lt_eq_not_le {x y} defined definedToo := by
    cases x with
    | undefined => cases defined
    | number x =>
        cases y with
        | undefined => cases definedToo
        | number y =>
            rw [Extended.le_number, ← decide_not]
            exact decide_eq_decide.mpr not_le.symm
        | _ => rfl
    | _ =>
        cases y with
        | undefined => cases definedToo
        | _ => rfl
  eq_of_same {x y} alike := by
    simp only [same, Extended.equals, Bool.and_eq_true, decide_eq_true_eq] at alike
    exact alike.2

/-! ## Bounds -/

namespace Coordinate

variable {α : Type} [Coordinate α]

theorem atLeastZero_atLeastZero (x : α) : atLeastZero (atLeastZero x) = atLeastZero x := by
  by_cases above : lt zero x = true
  · simp only [atLeastZero, above, if_true]
  · simp only [atLeastZero, above, if_false, ite_self, Bool.false_eq_true]

variable [ExactCoordinate α]

theorem zero_le_zero : le (zero : α) zero = true :=
  ExactCoordinate.le_self_of_isFinite ExactCoordinate.isFinite_zero

theorem zero_le_atLeastZero (x : α) : le zero (atLeastZero x) = true := by
  unfold atLeastZero
  split
  case isTrue above => exact ExactCoordinate.le_of_lt above
  case isFalse => exact zero_le_zero

theorem not_le_zero_of_lt {x : α} (above : lt zero x = true) : le x zero = false := by
  have defined : le x x = true :=
    ExactCoordinate.le_self_of_le (ExactCoordinate.le_of_lt above)
  have opposite := ExactCoordinate.lt_eq_not_le zero_le_zero defined
  rw [above] at opposite
  simpa using opposite.symm

theorem le_of_not_lt {x y : α} (defined : le x x = true) (definedToo : le y y = true)
    (within : ¬ lt y x = true) : le x y = true := by
  rw [ExactCoordinate.lt_eq_not_le definedToo defined] at within
  simpa using within

theorem clamp_within {x limit : α} (finite : isFinite x = true)
    (reached : le zero limit = true) :
    le zero (clamp x zero limit) = true ∧ le (clamp x zero limit) limit = true := by
  have defined : le x x = true := ExactCoordinate.le_self_of_isFinite finite
  have definedToo : le limit limit = true := ExactCoordinate.le_self_of_le reached
  unfold clamp
  split
  case isTrue => exact ⟨zero_le_zero, reached⟩
  case isFalse above =>
      split
      case isTrue => exact ⟨reached, definedToo⟩
      case isFalse within =>
          exact ⟨le_of_not_lt zero_le_zero defined above,
            le_of_not_lt defined definedToo within⟩

end Coordinate

end AdaptiveView
