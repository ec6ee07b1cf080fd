import AdaptiveView.Screen.Message
import AdaptiveView.Screen.State

/-!
# What messages do to a screen

Each message gives the next screen, the store with what the screen wrote to it, and the intents it
sends.  A refreshed collection is seen by the view mode and the density before anything else; only
sizes drive them, never filters or pages.
-/

set_option autoImplicit false

namespace AdaptiveView

structure Turn (R : Type) [Record R] (α σ : Type) where
  screen : Screen R α
  store : σ
  intents : List (Intent (Record.Id R))

namespace Screen

variable {R : Type} [Record R] {α : Type} [Coordinate α]

/-- Brings pages and scrolling in line with the number of records that pass the filters. -/
def refit (screen : Screen R α) : Screen R α :=
  let count := screen.matching.length
  { screen with
    pager := screen.pager.fitTo count
    viewport := screen.viewport.withCount count }

/-- Other filters show another list, from its start. -/
def withFilters (screen : Screen R α) (filters : Filters R) : Screen R α :=
  refit
    { screen with
      filters
      pager := screen.pager.goTo 1
      viewport := screen.viewport.forgetMeasured.scrolledTo Coordinate.zero }

/-- Another density.  Only another choice makes the heights stale. -/
def withDensity (screen : Screen R α) (density : Selector DensityPolicy Density) : Screen R α :=
  { screen with
    density
    viewport :=
      if screen.density.value = density.value then screen.viewport
      else screen.viewport.withEstimate (estimateFor R density.value) }

def selectWhere (screen : Screen R α) (test : R → Bool) : Screen R α :=
  { screen with selection := (screen.selection.addWhere screen.matching test).2 }

section
variable {σ : Type} [PreferenceStore σ]

/-- A fresh collection.  What is selected or in flight and no longer there is dropped. -/
def receiveCollection (screen : Screen R α) (records : List R) (store : σ) : Screen R α × σ :=
  let (_, viewMode, store) := screen.viewMode.resize records.length store
  let (changed, density, store) := screen.density.resize records.length store
  let viewport :=
    if changed then screen.viewport.withEstimate (estimateFor R density.value)
    else screen.viewport
  let present := records.map Record.id
  (refit
    { screen with
      collection := records
      loaded := true
      viewMode
      density
      selection := (screen.selection.keepOnly present).2
      busy := screen.busy.filter present.contains
      viewport := viewport.forgetMeasured },
   store)

/-- A change in the store under a key.  A change of one of its own preferences makes the screen read
both choices again; a choice that is the same as before is left alone. -/
def receiveChange (screen : Screen R α) (change : Change) (store : σ) : Screen R α × σ :=
  if (screen.name ++ ".").toList.isPrefixOf change.key.toList then
    let count := screen.collection.length
    let (viewMode, store) := Selector.ofStore screen.config.viewMode store screen.name count
    let (density, store) := Selector.ofStore screen.config.density store screen.name count
    let viewModeStays :=
      viewMode.value = screen.viewMode.value ∧ viewMode.kind = screen.viewMode.kind
    let densityStays :=
      density.value = screen.density.value ∧ density.kind = screen.density.kind
    let screen := if viewModeStays then screen else { screen with viewMode }
    let screen :=
      if densityStays then screen
      else
        { screen with
          density
          viewport := screen.viewport.withEstimate (estimateFor R density.value) }
    (screen, store)
  else (screen, store)

/-- Drops the stored preferences and starts again from the recommendations. -/
def resetPreferences (screen : Screen R α) (store : σ) : Screen R α × σ :=
  let store := forgetScreen store screen.name preferenceNames
  let count := screen.collection.length
  let (viewMode, store) := Selector.ofStore screen.config.viewMode store screen.name count
  let (density, store) := Selector.ofStore screen.config.density store screen.name count
  (refit
    { screen with
      viewMode
      density
      viewport := screen.viewport.withEstimate (estimateFor R density.value)
      pager := screen.pager.withSize screen.config.pageSize },
   store)

/-- A turn that sends no intent. -/
def quiet (outcome : Screen R α × σ) : Turn R α σ :=
  ⟨outcome.1, outcome.2, []⟩

def update (screen : Screen R α) (message : Message R α) (store : σ) : Turn R α σ :=
  match message with
  | .collectionUpdated records => quiet (screen.receiveCollection records store)
  | .busyChanged ids => quiet ({ screen with busy := ids }, store)
  | .preferenceChanged change => quiet (screen.receiveChange change store)
  | .searchChanged text =>
      if text = screen.filters.searchText then quiet (screen, store)
      else quiet (screen.withFilters { screen.filters with searchText := text }, store)
  | .statusFilter filter =>
      quiet (screen.withFilters { screen.filters with status := filter }, store)
  | .categoryFilter filter =>
      quiet (screen.withFilters { screen.filters with category := filter }, store)
  | .secondaryFilter filter =>
      quiet (screen.withFilters { screen.filters with secondary := filter }, store)
  | .resetFilters => quiet (screen.withFilters .none, store)
  | .sortBy field =>
      -- measured heights belong to positions, which now hold other records
      quiet ({ screen with
        sort := screen.sort.choose field
        viewport := screen.viewport.forgetMeasured }, store)
  | .groupBy groupBy => quiet ({ screen with groupBy }, store)
  | .selectViewMode mode =>
      let (viewMode, store) := screen.viewMode.pin mode store
      quiet ({ screen with viewMode }, store)
  | .autoViewMode =>
      let (viewMode, store) := screen.viewMode.release store
      quiet ({ screen with viewMode }, store)
  | .selectDensity density =>
      let (density, store) := screen.density.pin density store
      quiet (screen.withDensity density, store)
  | .autoDensity =>
      let (density, store) := screen.density.release store
      quiet (screen.withDensity density, store)
  | .setPage pageIndex => quiet ({ screen with pager := screen.pager.goTo pageIndex }, store)
  | .nextPage => quiet ({ screen with pager := screen.pager.forward }, store)
  | .previousPage => quiet ({ screen with pager := screen.pager.back }, store)
  | .setPageSize pageSize =>
      quiet (refit { screen with pager := screen.pager.withSize pageSize }, store)
  | .scrolled offset =>
      quiet ({ screen with viewport := screen.viewport.scrolledTo offset }, store)
  | .viewportResized height =>
      quiet ({ screen with viewport := screen.viewport.withHeight height }, store)
  | .itemMeasured index height =>
      quiet ({ screen with viewport := (screen.viewport.recordHeight index height).1 }, store)
  | .toggleSelected id selected =>
      quiet ({ screen with selection := screen.selection.set id selected }, store)
  | .selectAllVisible =>
      quiet ({ screen with selection := screen.selection.insertAll screen.matchingIds }, store)
  | .invertVisible =>
      quiet ({ screen with selection := screen.selection.invert screen.matchingIds }, store)
  | .clearSelection => quiet ({ screen with selection := .empty }, store)
  | .selectByStatus status =>
      quiet (screen.selectWhere fun record => Record.status record == status, store)
  | .selectByCategory category =>
      quiet (screen.selectWhere fun record => Record.category record == category, store)
  | .ask intent => ⟨screen, store, [intent]⟩
  | .syncSelected => ⟨screen, store, screen.selection.ids.map (Intent.mk .sync)⟩
  | .deleteSelected => ⟨screen, store, screen.selection.ids.map (Intent.mk .delete)⟩
  | .resetPreferences => quiet (screen.resetPreferences store)

/-- What messages do one after the other; the intents of all of them in order. -/
def updateAll (screen : Screen R α) (store : σ) : List (Message R α) → Turn R α σ
  | [] => ⟨screen, store, []⟩
  | message :: rest =>
      let turn := screen.update message store
      let later := turn.screen.updateAll turn.store rest
      { later with intents := turn.intents ++ later.intents }

end

end Screen

/-- Where a screen sends its intents.  Once the other side has gone they are dropped. -/
structure Outbox (I : Type) where
  isOpen : Bool
  sent : List (Intent I)

namespace Outbox

variable {I : Type}

def new : Outbox I := ⟨true, []⟩

def send (outbox : Outbox I) (intents : List (Intent I)) : Outbox I :=
  if outbox.isOpen then { outbox with sent := outbox.sent ++ intents } else outbox

def close (outbox : Outbox I) : Outbox I :=
  { outbox with isOpen := false }

end Outbox

end AdaptiveView
