import AdaptiveView.Json.Value
import AdaptiveView.Decimal.Reading

/-!
# Numbers in JSON texts

A number without point and exponent is whole as long as it fits into 64 bits.  Any other number is
a double: the leading digits that fit into 64 bits, times or divided by a power of ten.  Digits
that no longer fit only move the exponent.
-/

set_option autoImplicit false

namespace AdaptiveView.Json

open AdaptiveView.Decimal

/-- How the text of a document fails: it breaks off, or something stands where it must not. -/
inductive Fault where
  | unfinished
  | malformed
  deriving DecidableEq, Repr

/-- The number written by digits, a fraction and an exponent. -/
structure Numeral where
  isNegative : Bool
  whole : List Char
  /-- The digits after the point, if there is one. -/
  places : Option (List Char)
  /-- The sign and digits of the exponent, if there is one. -/
  exponent : Option (Bool × List Char)

/-- Leading digits of a numeral: `kept` fits into 64 bits, `dropped` counts the digits after it. -/
structure Significand where
  kept : Nat
  dropped : Nat

def Significand.pushWhole (s : Significand) (c : Char) : Significand :=
  let longer := 10 * s.kept + (c.toNat - '0'.toNat)
  if s.dropped = 0 ∧ longer < countLimit then ⟨longer, 0⟩ else ⟨s.kept, s.dropped + 1⟩

/-- The digits after the point, as long as they fit; also how many did. -/
def pushPlaces (kept : Nat) : List Char → Nat × Nat
  | [] => (kept, 0)
  | c :: rest =>
      let longer := 10 * kept + (c.toNat - '0'.toNat)
      if longer < countLimit then
        let (kept, places) := pushPlaces longer rest
        (kept, places + 1)
      else (kept, 0)

/-- The power of ten with an exponent up to 308. -/
def powerOfTen (n : Nat) : Float :=
  Float.ofScientific 1 false n

/-- `x · 10 ^ exponent`, in one step where the power is a double and in steps of `10 ^ 308` below
that; a result beyond all doubles is a fault. -/
def scaleByTen (x : Float) (exponent : Int) : Except Fault Float :=
  if exponent.natAbs ≤ 308 then
    if 0 ≤ exponent then
      let scaled := x * powerOfTen exponent.natAbs
      if scaled.isInf then .error .malformed else .ok scaled
    else .ok (x / powerOfTen exponent.natAbs)
  else if x == 0 then .ok x
  else if 0 ≤ exponent then .error .malformed
  else scaleByTen (x / powerOfTen 308) (exponent + 308)
termination_by (-exponent).toNat
decreasing_by omega

/-- The largest exponent that is taken at its value. -/
def exponentLimit : Nat := 0x7FFFFFFF

/-- Whether some leading part of the digits is past the largest exponent. -/
def exponentTooLarge (digits : List Char) : Bool :=
  exponentLimit < ofDigits digits

def Numeral.magnitude (n : Numeral) : Except Fault Float :=
  let lead := n.whole.foldl Significand.pushWhole ⟨0, 0⟩
  let (kept, places) := pushPlaces lead.kept (n.places.getD [])
  let shift : Int := lead.dropped - places
  match n.exponent with
  | none => scaleByTen (Float.ofNat kept) shift
  | some (isNegative, digits) =>
      if exponentTooLarge digits then
        if kept ≠ 0 ∧ !isNegative then .error .malformed else .ok 0
      else
        let exponent : Int := ofDigits digits
        scaleByTen (Float.ofNat kept) (shift + if isNegative then -exponent else exponent)

def Numeral.value (n : Numeral) : Except Fault Number :=
  let lead := n.whole.foldl Significand.pushWhole ⟨0, 0⟩
  if n.places.isNone ∧ n.exponent.isNone ∧ lead.dropped = 0 ∧
      (!n.isNegative ∨ 1 ≤ lead.kept ∧ lead.kept ≤ 0x8000000000000000) then
    .ok (if n.isNegative then .negative lead.kept else .unsigned lead.kept)
  else
    n.magnitude.map fun x => .double (if n.isNegative then -x else x)

end AdaptiveView.Json
