/-!
# Coordinates along the scroll axis

Positions and heights are doubles when the program runs.  What is computed from them needs only the
operations below, so the same definitions also read over exact numbers.
-/

set_option autoImplicit false

namespace AdaptiveView

class Coordinate (α : Type) where
  zero : α
  ofNat : Nat → α
  add : α → α → α
  sub : α → α → α
  lt : α → α → Bool
  le : α → α → Bool
  same : α → α → Bool
  /-- Neither infinite nor undefined. -/
  isFinite : α → Bool

namespace Coordinate

variable {α : Type} [Coordinate α]

/-- Negative and undefined values become zero. -/
def atLeastZero (x : α) : α :=
  if lt zero x then x else zero

/-- The nearest value from `low` to `high`. -/
def clamp (x low high : α) : α :=
  if lt x low then low else if lt high x then high else x

end Coordinate

instance : Coordinate Float where
  zero := 0
  ofNat := Float.ofNat
  add := Float.add
  sub := Float.sub
  lt := Float.lt
  le := Float.le
  same := Float.beq
  isFinite := Float.isFinite

instance : Coordinate Rat where
  zero := 0
  ofNat n := n
  add := Rat.add
  sub := Rat.sub
  lt a b := decide (a < b)
  le a b := decide (a ≤ b)
  same a b := decide (a = b)
  isFinite _ := true

end AdaptiveView
