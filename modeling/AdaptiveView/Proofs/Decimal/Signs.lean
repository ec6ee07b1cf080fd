/-!
# Doubles above and below zero

The comparisons of doubles are read off their signs.  Nothing is below zero and above it, and a finite
double that is not below zero is at least zero, be it the negative zero.
-/

set_option autoImplicit false

namespace AdaptiveView

open Float.Model

theorem unpack_zero : (0 : Float).toModel.unpack = .zero .positive := rfl

theorem lt_eq_unpack (x y : Float) : x.lt y = x.toModel.unpack.lt y.toModel.unpack :=
  Bool.decide_eq_true

theorem le_eq_unpack (x y : Float) : x.le y = x.toModel.unpack.le y.toModel.unpack :=
  Bool.decide_eq_true

theorem Float.not_lt_zero {x : Float} (above : Float.lt 0 x = true) : x.lt 0 = false := by
  rw [lt_eq_unpack, unpack_zero] at *
  cases unpacked : x.toModel.unpack with
  | notANumber => rfl
  | zero sign => rfl
  | infinity sign =>
      rw [unpacked] at above
      cases sign with
      | positive => rfl
      | negative => cases above
  | finite sign mantissa exponent positive =>
      rw [unpacked] at above
      cases sign with
      | positive => rfl
      | negative => cases above

theorem Float.zero_le_of_finite {x : Float} (finite : x.isFinite = true) (above : x.lt 0 = false) :
    Float.le 0 x = true := by
  have finite : x.toModel.unpack.isFinite = true := finite
  rw [lt_eq_unpack] at above
  rw [le_eq_unpack]
  cases unpacked : x.toModel.unpack with
  | notANumber =>
      rw [unpacked] at finite
      cases finite
  | infinity sign =>
      rw [unpacked] at finite
      cases finite
  | zero sign => rfl
  | finite sign mantissa exponent positive =>
      rw [unpacked] at above
      cases sign with
      | positive => rfl
      | negative => cases above

end AdaptiveView
