import AdaptiveView.Screen.State

/-!
# Render plans

What to draw, worked out anew from the screen each time: the rows of the current layout, or the
reason why there are none.  Every layout but the grouped one shows the records in the sort order.
-/

set_option autoImplicit false

namespace AdaptiveView

open AdaptiveView.Calendar

structure Row (R : Type) where
  record : R
  selected : Bool
  busy : Bool
  density : Density

structure GroupSection (R : Type) where
  key : String
  label : String
  errorCount : Nat
  activeCount : Nat
  rows : List (Row R)

inductive EmptyReason where
  /-- No collection has arrived yet. -/
  | loading
  | noRecords
  /-- There are records, but the filters leave none. -/
  | noMatches
  deriving DecidableEq, Repr

inductive PlanBody (R α : Type) where
  | empty (reason : EmptyReason)
  | flat (rows : List (Row R))
  | virtualized (range : VisibleRange α) (rows : List (Row R))
  | grouped (groupBy : GroupBy) (groups : List (GroupSection R))
  | paginated (window : PageWindow) (buttons : List Nat) (rows : List (Row R))

/-- What is selected, and how that relates to the records in sight. -/
structure SelectionSummary where
  selected : Nat
  allVisible : Bool
  partiallyVisible : Bool
  stats : SelectionStats
  deriving DecidableEq

structure Plan (R α : Type) where
  viewMode : ViewMode
  viewModeAuto : Bool
  recommendedViewMode : ViewMode
  density : Density
  densityAuto : Bool
  totalCount : Nat
  filteredCount : Nat
  activeFilters : Nat
  /-- Counts over the whole collection. -/
  stats : CollectionStats
  selection : SelectionSummary
  body : PlanBody R α

namespace Screen

variable {R : Type} [Record R] {α : Type} [Coordinate α]

/-- How many page buttons are shown. -/
def buttonCount : Nat := 5

/-- The records in sight, in the order in which the layout takes them. -/
def ordered (screen : Screen R α) : List R :=
  if screen.viewMode.value = .grouped then screen.matching
  else sortedBy screen.sort screen.matching

def row (screen : Screen R α) (record : R) : Row R :=
  { record
    selected := screen.selection.contains (Record.id record)
    busy := screen.isBusy (Record.id record)
    density := screen.density.value }

def rows (screen : Screen R α) (records : List R) : List (Row R) :=
  records.map screen.row

def emptyReason (screen : Screen R α) : EmptyReason :=
  if !screen.loaded then .loading
  else if screen.collection.isEmpty then .noRecords
  else .noMatches

def groupPlan (screen : Screen R α) (bucket : Bucket R) : GroupSection R :=
  { key := bucket.key
    label := bucket.label
    errorCount := bucket.errorCount
    activeCount := bucket.activeCount
    rows := screen.rows bucket.members }

def planBody (screen : Screen R α) (now : Instant) (records : List R) : PlanBody R α :=
  if records.isEmpty then .empty screen.emptyReason
  else
    match screen.viewMode.value with
    | .flat => .flat (screen.rows records)
    | .virtualized =>
        let range := screen.viewport.visible.truncate records.length
        let shown := (records.drop range.first).take (range.last - range.first)
        .virtualized range (screen.rows shown)
    | .grouped =>
        let groups := groupRecords screen.groupBy now records
        .grouped screen.groupBy (groups.map screen.groupPlan)
    | .paginatedTable =>
        let pager := screen.pager
        let window := PageWindow.of pager.window.pageIndex pager.pageSize records.length
        .paginated window (window.buttons buttonCount) (screen.rows (window.slice records))

def selectionSummary (screen : Screen R α) (records : List R) : SelectionSummary :=
  let visible := records.map Record.id
  { selected := screen.selection.size
    allVisible := screen.selection.holdsAll visible
    partiallyVisible := screen.selection.holdsSome visible
    stats := screen.selectionStats }

def plan (screen : Screen R α) (now : Instant) : Plan R α :=
  let records := screen.ordered
  { viewMode := screen.viewMode.value
    viewModeAuto := screen.viewMode.isAuto
    recommendedViewMode := screen.viewMode.recommendation
    density := screen.density.value
    densityAuto := screen.density.isAuto
    totalCount := screen.collection.length
    filteredCount := records.length
    activeFilters := screen.filters.activeCount
    stats := CollectionStats.of screen.collection
    selection := screen.selectionSummary records
    body := screen.planBody now records }

end Screen

end AdaptiveView
