import AdaptiveView.Decimal.Binary64

/-!
# A fixed number of places

The exact value rounded to so many places, a half to the even neighbour.
-/

set_option autoImplicit false

namespace AdaptiveView.Decimal

/-- The quotient with `places` digits after the point. -/
def fixedChars (places num den : Nat) : List Char :=
  let units := roundHalfEven (num * Nat.pow 10 places) den
  let whole := digitsOf (units / Nat.pow 10 places)
  if places = 0 then whole
  else
    let fraction := digitsOf (units % Nat.pow 10 places)
    whole ++ '.' :: List.replicate (places - fraction.length) '0' ++ fraction

/-- A double with `places` digits after the point; the values that are no numbers by name. -/
def fixedText (places : Nat) (x : Float) : String :=
  if x.isNaN then "NaN"
  else if x.isInf then (if x < 0 then "-inf" else "inf")
  else
    let parts := Binary64.ofFloat x
    let (up, down) := binaryScale parts.exponent
    let sign := if parts.negative then ['-'] else []
    String.ofList (sign ++ fixedChars places (parts.mantissa * up) down)

end AdaptiveView.Decimal
