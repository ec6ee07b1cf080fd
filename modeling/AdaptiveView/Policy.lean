import AdaptiveView.Presentation
import AdaptiveView.Json.Decode

/-!
# Recommendations

A policy maps the size of a collection to a choice: bigger collections get a terser layout and
smaller rows.  Its bounds come from the configuration and need not be in order.
-/

set_option autoImplicit false

namespace AdaptiveView

open AdaptiveView.Json

/-- A rule that recommends a choice for a number of records. -/
class Recommender (P : Type) (V : outParam Type) where
  /-- The name under which a choice of this kind is stored. -/
  preferenceName : String
  recommend : P → Nat → V

/-- Up to which size each layout is recommended; anything larger gets the table. -/
structure ViewModePolicy where
  flatMax : Nat
  virtualizedMax : Nat
  groupedMax : Nat
  deriving DecidableEq

def ViewModePolicy.standard : ViewModePolicy := ⟨15, 30, 50⟩

instance : Recommender ViewModePolicy ViewMode where
  preferenceName := "view_mode"
  recommend policy count :=
    if count ≤ policy.flatMax then .flat
    else if count ≤ policy.virtualizedMax then .virtualized
    else if count ≤ policy.groupedMax then .grouped
    else .paginatedTable

/-- Up to which size each density is recommended; anything larger gets minimal rows. -/
structure DensityPolicy where
  detailedMax : Nat
  compactMax : Nat
  deriving DecidableEq

def DensityPolicy.standard : DensityPolicy := ⟨20, 50⟩

instance : Recommender DensityPolicy Density where
  preferenceName := "density"
  recommend policy count :=
    if count ≤ policy.detailedMax then .detailed
    else if count ≤ policy.compactMax then .compact
    else .minimal

/-! ## In documents -/

def ViewModePolicy.shape : Shape where
  name := "ViewModePolicy"
  fields :=
    [.of "flat_max" takeSize, .of "virtualized_max" takeSize, .of "grouped_max" takeSize]

/-- A policy of which fields may be missing. -/
def ViewModePolicy.take : Decoder ViewModePolicy := fun node => do
  let fields ← shape.take node
  let flatMax ← fields.getD "flat_max" takeSize standard.flatMax
  let virtualizedMax ← fields.getD "virtualized_max" takeSize standard.virtualizedMax
  let groupedMax ← fields.getD "grouped_max" takeSize standard.groupedMax
  return { flatMax, virtualizedMax, groupedMax }

def ViewModePolicy.toValue (policy : ViewModePolicy) : Value :=
  .object
    [("flat_max", .count policy.flatMax),
     ("virtualized_max", .count policy.virtualizedMax),
     ("grouped_max", .count policy.groupedMax)]

def DensityPolicy.shape : Shape where
  name := "DensityPolicy"
  fields := [.of "detailed_max" takeSize, .of "compact_max" takeSize]

/-- A policy of which fields may be missing. -/
def DensityPolicy.take : Decoder DensityPolicy := fun node => do
  let fields ← shape.take node
  let detailedMax ← fields.getD "detailed_max" takeSize standard.detailedMax
  let compactMax ← fields.getD "compact_max" takeSize standard.compactMax
  return { detailedMax, compactMax }

def DensityPolicy.toValue (policy : DensityPolicy) : Value :=
  .object
    [("detailed_max", .count policy.detailedMax),
     ("compact_max", .count policy.compactMax)]

end AdaptiveView
