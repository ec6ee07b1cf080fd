import AdaptiveView.Filter
import AdaptiveView.Grouping
import AdaptiveView.Preference.Feed

/-!
# Messages and intents

Messages are all that happens to a screen: data from outside and what the user does.  An intent is a
change of a record that the user asks for.  The screen does not make it; its owner does, and sends a
fresh collection.
-/

set_option autoImplicit false

namespace AdaptiveView

inductive IntentKind where
  | sync
  | delete
  | toggleStatus
  | clearError
  deriving DecidableEq, Repr

/-- A change of one record that the user asks for. -/
structure Intent (I : Type) where
  kind : IntentKind
  id : I
  deriving DecidableEq, Repr

inductive Message (R : Type) [Record R] (α : Type) where
  -- data from outside
  | collectionUpdated (records : List R)
  | busyChanged (ids : List (Record.Id R))
  | preferenceChanged (change : Change)
  -- filters, order and groups
  | searchChanged (text : String)
  | statusFilter (filter : FieldFilter (Record.Status R))
  | categoryFilter (filter : FieldFilter (Record.Category R))
  | secondaryFilter (filter : FieldFilter (Record.Secondary R))
  | resetFilters
  | sortBy (field : Record.SortField R)
  | groupBy (groupBy : GroupBy)
  -- view mode and density
  | selectViewMode (mode : ViewMode)
  | autoViewMode
  | selectDensity (density : Density)
  | autoDensity
  -- pages and scrolling
  | setPage (pageIndex : Nat)
  | nextPage
  | previousPage
  | setPageSize (pageSize : Nat)
  | scrolled (offset : α)
  | viewportResized (height : α)
  | itemMeasured (index : Nat) (height : α)
  -- selection
  | toggleSelected (id : Record.Id R) (selected : Bool)
  | selectAllVisible
  | invertVisible
  | clearSelection
  | selectByStatus (status : Record.Status R)
  | selectByCategory (category : Record.Category R)
  -- intents
  | ask (intent : Intent (Record.Id R))
  | syncSelected
  | deleteSelected
  -- everything back to the recommendations
  | resetPreferences

end AdaptiveView
