import AdaptiveView.Decimal.Binary64

/-!
# Shortest decimals

The fewest digits that read back as the same double; of several such decimals the nearest to the
double, and of two equally near ones the even one.  The written form is positional from `10 ^ -5`
up to `10 ^ 16`, with at least one place; outside of that it has an exponent, whose sign is always
written.
-/

set_option autoImplicit false

namespace AdaptiveView.Decimal

/-- The number `digits · 10 ^ exponent`. -/
structure Scientific where
  digits : Nat
  exponent : Int

/-- The exponent of the first digit of a positive double. -/
def Binary64.leadingExponent (x : Binary64) : Int :=
  let (up, down) := binaryScale x.exponent
  (digitCount (x.mantissa * up * Nat.pow 10 324 / down) : Int) - 325

/-- The point of the grid of step `10 ^ e` that is nearest to the double, among those that read
back as it. -/
def Binary64.onGrid? (x : Binary64) (e : Int) : Option Nat :=
  let (up, down) := binaryScale (x.exponent - 2)
  let (gridUp, gridDown) := decimalScale e
  let unit := up * gridDown
  let step := gridUp * down
  let value := 4 * x.mantissa * unit
  let low := (4 * x.mantissa - if x.closeBelow then 1 else 2) * unit
  let high := (4 * x.mantissa + 2) * unit
  let readsBack := fun (point : Nat) =>
    if x.mantissa % 2 = 0 then low ≤ point * step && point * step ≤ high
    else low < point * step && point * step < high
  let below := value / step
  let nearest := roundHalfEven value step
  let other := if nearest = below then below + 1 else below
  if readsBack nearest then some nearest
  else if readsBack other then some other
  else none

/-- Trailing zeros move from the digits into the exponent. -/
def Scientific.withoutZeros (s : Scientific) : Scientific :=
  if 0 < s.digits ∧ s.digits % 10 = 0 then
    Scientific.withoutZeros ⟨s.digits / 10, s.exponent + 1⟩
  else s
termination_by s.digits
decreasing_by omega

/-- The shortest decimal of a positive double; seventeen digits are always enough. -/
def Binary64.shortest (x : Binary64) : Scientific :=
  let lead := x.leadingExponent
  let grids := (List.range 17).map fun (n : Nat) => lead - n
  match grids.findSome? fun e => (x.onGrid? e).map (Scientific.mk · e) with
  | some s => s.withoutZeros
  | none => ⟨x.mantissa, x.exponent⟩

def Scientific.zeros (n : Nat) : List Char :=
  List.replicate n '0'

def exponentChars (e : Int) : List Char :=
  (if e < 0 then '-' else '+') :: digitsOf e.natAbs

def Scientific.chars (s : Scientific) : List Char :=
  let digits := digitsOf s.digits
  let point : Int := digits.length + s.exponent
  if 0 ≤ s.exponent ∧ point ≤ 16 then
    digits ++ zeros s.exponent.toNat ++ ['.', '0']
  else if 0 < point ∧ point ≤ 16 then
    digits.take point.toNat ++ '.' :: digits.drop point.toNat
  else if -5 < point ∧ point ≤ 0 then
    '0' :: '.' :: zeros (-point).toNat ++ digits
  else
    let places := if digits.length = 1 then [] else '.' :: digits.drop 1
    digits.take 1 ++ places ++ 'e' :: exponentChars (point - 1)

def shortestText (x : Float) : String :=
  let parts := Binary64.ofFloat x
  let sign := if parts.negative then ['-'] else []
  String.ofList (sign ++ if parts.mantissa = 0 then ['0', '.', '0'] else parts.shortest.chars)

end AdaptiveView.Decimal
