/-!
# View modes and densities

The two things a list view chooses by the size of its collection: how the records are laid out and
how much of each is shown.  Both are stored under stable keys.
-/

set_option autoImplicit false

namespace AdaptiveView

/-- How a collection is laid out. -/
inductive ViewMode where
  | flat
  | virtualized
  | grouped
  | paginatedTable
  deriving DecidableEq, Repr, Inhabited

/-- How much of a record its row shows. -/
inductive Density where
  | detailed
  | compact
  | minimal
  deriving DecidableEq, Repr, Inhabited

class Keyed (V : Type) where
  key : V → String
  /-- The choice with exactly this key. -/
  ofKey? : String → Option V

def ViewMode.key : ViewMode → String
  | .flat => "flat"
  | .virtualized => "virtualized"
  | .grouped => "grouped"
  | .paginatedTable => "paginated_table"

def ViewMode.ofKey? (key : String) : Option ViewMode :=
  [ViewMode.flat, .virtualized, .grouped, .paginatedTable].find? (·.key == key)

instance : Keyed ViewMode := ⟨ViewMode.key, ViewMode.ofKey?⟩

def Density.key : Density → String
  | .detailed => "detailed"
  | .compact => "compact"
  | .minimal => "minimal"

def Density.ofKey? (key : String) : Option Density :=
  [Density.detailed, .compact, .minimal].find? (·.key == key)

instance : Keyed Density := ⟨Density.key, Density.ofKey?⟩

@[simp]
theorem ViewMode.ofKey?_key (mode : ViewMode) : ViewMode.ofKey? mode.key = some mode := by
  cases mode <;> decide

@[simp]
theorem Density.ofKey?_key (density : Density) : Density.ofKey? density.key = some density := by
  cases density <;> decide

end AdaptiveView
