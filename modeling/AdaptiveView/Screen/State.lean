import AdaptiveView.Settings
import AdaptiveView.Filter
import AdaptiveView.Grouping
import AdaptiveView.Listing
import AdaptiveView.Selection
import AdaptiveView.Selector

/-!
# Screens

What a screen knows of its collection and how it shows it.  The preference store is not part of a
screen, because several screens share one.
-/

set_option autoImplicit false

namespace AdaptiveView

structure Screen (R : Type) [Record R] (α : Type) where
  /-- The name that the screen's preferences begin with. -/
  name : String
  config : Settings α
  collection : List R
  /-- Whether a collection has arrived yet. -/
  loaded : Bool
  /-- Identifiers of records with an operation in flight. -/
  busy : List (Record.Id R)
  filters : Filters R
  sort : SortState (Record.SortField R)
  groupBy : GroupBy
  selection : Selection (Record.Id R)
  viewMode : Selector ViewModePolicy ViewMode
  density : Selector DensityPolicy Density
  pager : Pager
  viewport : Viewport α

namespace Screen

def preferenceNames : List String :=
  ["view_mode", "view_mode_auto", "density", "density_auto"]

variable {R : Type} [Record R] {α : Type} [Coordinate α]

/-- The height of a row of this density before it is measured. -/
def estimateFor (R : Type) [Record R] {α : Type} [Coordinate α] (density : Density) : α :=
  Coordinate.ofNat (Record.rowHeight R density)

section
variable {σ : Type} [PreferenceStore σ]

/-- A screen without a collection, with the preferences that the store has for it. -/
def new (name : String) (sort : SortState (Record.SortField R)) (config : Settings α)
    (store : σ) : Screen R α × σ :=
  let (_, store) := upgradeScreen store name preferenceNames
  let (viewMode, store) := Selector.ofStore config.viewMode store name 0
  let (density, store) := Selector.ofStore config.density store name 0
  ({ name
     config
     collection := []
     loaded := false
     busy := []
     filters := .none
     sort
     groupBy := .status
     selection := .empty
     viewMode
     density
     pager := .ofSize config.pageSize
     viewport := .new (estimateFor R density.value) config.containerHeight config.overscan },
   store)

def ofListing (R : Type) [Record R] [Listing R] {α : Type} [Coordinate α]
    (config : Settings α) (store : σ) : Screen R α × σ :=
  new (Listing.screenName R) (Listing.initialSort) config store

end

/-- The records that pass the filters, in the order of the collection. -/
def matching (screen : Screen R α) : List R :=
  screen.filters.apply screen.collection

/-- The identifiers of these records; visible means this for a selection, whatever page is shown. -/
def matchingIds (screen : Screen R α) : List (Record.Id R) :=
  screen.matching.map Record.id

def isBusy (screen : Screen R α) (id : Record.Id R) : Bool :=
  decide (id ∈ screen.busy)

def selectionStats (screen : Screen R α) : SelectionStats :=
  screen.selection.stats screen.collection

end Screen

end AdaptiveView
