/-!
# Doubles as exact numbers

A finite double is a whole number of units `2 ^ exponent`.  Everything that is written about a
double is computed from these parts in exact arithmetic.
-/

set_option autoImplicit false

namespace AdaptiveView.Decimal

/-- The exact value `mantissa · 2 ^ exponent` of a finite double, apart from its sign. -/
structure Binary64 where
  negative : Bool
  mantissa : Nat
  exponent : Int
  /-- The next double towards zero is half a unit nearer than the next one away from it. -/
  closeBelow : Bool

/-- The parts of a finite double, read off its 64 bits. -/
def Binary64.ofFloat (x : Float) : Binary64 :=
  let bits : Nat := x.toBits.toNat
  let fraction : Nat := bits % Nat.pow 2 52
  let scale : Nat := bits / Nat.pow 2 52 % Nat.pow 2 11
  let negative := bits / Nat.pow 2 63 == 1
  if scale = 0 then ⟨negative, fraction, -1074, false⟩
  else ⟨negative, Nat.pow 2 52 + fraction, (scale : Int) - 1075, fraction == 0 && scale > 1⟩

/-- `2 ^ e` as a fraction of natural numbers. -/
def binaryScale (e : Int) : Nat × Nat :=
  (Nat.pow 2 e.toNat, Nat.pow 2 (-e).toNat)

/-- `10 ^ e` as a fraction of natural numbers. -/
def decimalScale (e : Int) : Nat × Nat :=
  (Nat.pow 10 e.toNat, Nat.pow 10 (-e).toNat)

def digitsOf (n : Nat) : List Char :=
  Nat.toDigits 10 n

def digitCount (n : Nat) : Nat :=
  (digitsOf n).length

/-- The quotient rounded to the nearest whole number, a half to the even neighbour. -/
def roundHalfEven (num den : Nat) : Nat :=
  let floor := num / den
  let rest := num % den
  if 2 * rest < den then floor
  else if den < 2 * rest then floor + 1
  else floor + floor % 2

end AdaptiveView.Decimal
