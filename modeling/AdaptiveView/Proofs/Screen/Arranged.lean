import AdaptiveView.Proofs.Screen.Refiltered
import AdaptiveView.Proofs.Screen.Rereading
import AdaptiveView.Proofs.Selector.Restart

/-!
# Arranged screens

A screen that shows its list from the top is given by what it shows and by seven choices: the two
selectors, the groups, the search text, the size and the number of the page, and whether all that
passes the search is selected.  A message that makes one of these choices leaves the others alone, but
for three cases.  A reset and another page size go back to the first page, and so does another search,
which also leaves the selection as it was.
-/

set_option autoImplicit false

namespace AdaptiveView

open Coordinate WorkingStore Selector

namespace Viewport

variable {α : Type} [Coordinate α] [SignedCoordinate α]

theorem forgetMeasured_restarted (v : Viewport α) (count : Nat) :
    (v.restarted count).forgetMeasured = v.restarted count := by
  have forgotten : (v.restarted count).forgetMeasured = (v.restarted count).settle := by
    simp only [forgetMeasured, restarted, List.map_replicate]
  rw [forgotten]
  exact settle_at_top rfl

theorem withCount_restarted (v : Viewport α) (before after : Nat) :
    (v.restarted before).withCount after = v.restarted after := by
  have top : (v.restarted before).scrolledTo zero = v.restarted before := settle_at_top rfl
  have again := withCount_scrolledTo_zero (v.restarted before) after
  rw [forgetMeasured_restarted, top] at again
  exact again

theorem withEstimate_restarted (v : Viewport α) (count : Nat) (estimate : α) :
    (v.restarted count).withEstimate estimate =
      { v with estimate := atLeastZero estimate }.restarted count :=
  forgetMeasured_restarted { v with estimate := atLeastZero estimate } count

theorem forgetMeasured_new (estimate height : α) (overscan : Nat) :
    (new estimate height overscan).forgetMeasured = new estimate height overscan :=
  forgetMeasured_restarted (new estimate height overscan) 0

theorem withCount_new (estimate height : α) (overscan count : Nat) :
    (new estimate height overscan).withCount count =
      (new estimate height overscan).restarted count :=
  withCount_restarted (new estimate height overscan) 0 count

theorem withEstimate_new (estimate height : α) (overscan : Nat) (another : α) :
    (new estimate height overscan).withEstimate another = new another height overscan :=
  withEstimate_restarted (new estimate height overscan) 0 another

end Viewport

namespace Pager

theorem goTo_one_of_first (pageSize totalItems : Nat) :
    goTo ⟨1, pageSize, totalItems⟩ 1 = ⟨1, pageSize, totalItems⟩ :=
  goTo_one _

theorem fitTo_withSize (pager : Pager) (pageSize totalItems : Nat) :
    (pager.withSize pageSize).fitTo totalItems = ⟨1, max pageSize 1, totalItems⟩ :=
  goTo_one _

end Pager

/-! ## Runs of messages -/

namespace Screen

variable {R : Type} [Record R] {α : Type} [Coordinate α] {σ : Type} [PreferenceStore σ]

theorem updateAll_append (screen : Screen R α) (store : σ) (first second : List (Message R α)) :
    let turn := screen.updateAll store first
    let later := turn.screen.updateAll turn.store second
    screen.updateAll store (first ++ second) =
      { later with intents := turn.intents ++ later.intents } := by
  induction first generalizing screen store with
  | nil => rfl
  | cons message rest ih =>
      intro turn later
      rw [List.cons_append, updateAll, ih]
      simp only [turn, later, updateAll, List.append_assoc]

variable [WorkingStore σ]

theorem works_updateAll {store : σ} (works : Works store) (screen : Screen R α)
    (messages : List (Message R α)) : Works (screen.updateAll store messages).store := by
  induction messages generalizing screen store with
  | nil => exact works
  | cons message rest ih => exact ih (works_update works screen message) _

variable (σ) in
/-- Over every store that works the messages make the second screen of the first. -/
def Leads (before : Screen R α) (messages : List (Message R α)) (after : Screen R α) : Prop :=
  ∀ store : σ, Works store → (before.updateAll store messages).screen = after

theorem Leads.nil (screen : Screen R α) : screen.Leads σ [] screen := by
  intro store _
  rfl

theorem Leads.single {before after : Screen R α} {message : Message R α}
    (turns : ∀ store : σ, Works store → (before.update message store).screen = after) :
    before.Leads σ [message] after := by
  intro store works
  exact turns store works

theorem Leads.append {before middle after : Screen R α} {first second : List (Message R α)}
    (one : before.Leads σ first middle) (other : middle.Leads σ second after) :
    before.Leads σ (first ++ second) after := by
  intro store works
  rw [updateAll_append]
  dsimp only
  rw [one store works]
  exact other _ (works_updateAll works before first)

/-- The message of an option, if it is given. -/
theorem Leads.given {T : Type} {message : T → Message R α} (after : Option T → Screen R α)
    (turns : ∀ value, (after none).Leads σ [message value] (after (some value)))
    (value? : Option T) : (after none).Leads σ (value?.toList.map message) (after value?) := by
  cases value? with
  | none => exact .nil _
  | some value => exact turns value

/-- The messages of an option that is there or not. -/
theorem Leads.raised {messages : List (Message R α)} (after : Bool → Screen R α)
    (turns : (after false).Leads σ messages (after true)) (flag : Bool) :
    (after false).Leads σ (if flag then messages else []) (after flag) := by
  cases flag with
  | false => exact .nil _
  | true => exact turns

end Screen

/-! ## Arrangements -/

/-- What a screen is besides what it shows, as long as it shows its list from the top. -/
structure Arrangement where
  viewMode : Selector ViewModePolicy ViewMode
  density : Selector DensityPolicy Density
  groupBy : GroupBy
  searchText : String
  /-- Zero counts as one. -/
  pageSize : Nat
  /-- The page that was asked for; the nearest one is shown. -/
  page : Nat
  selectAll : Bool

namespace Arrangement

/-- As a screen opens with these selectors. -/
def opening (viewMode : Selector ViewModePolicy ViewMode)
    (density : Selector DensityPolicy Density) (pageSize : Nat) : Arrangement :=
  ⟨viewMode, density, .status, "", pageSize, 1, false⟩

variable {R : Type} [Record R] [Listing R] {α : Type} [Coordinate α]

def filters (R : Type) [Record R] (arrangement : Arrangement) : Filters R :=
  { Filters.none with searchText := arrangement.searchText }

/-- The screen that shows these records in this way. -/
def screen (arrangement : Arrangement) (config : Settings α) (records : List R)
    (busy : List (Record.Id R)) : Screen R α :=
  let matching := (arrangement.filters R).apply records
  let estimate := Screen.estimateFor R arrangement.density.value
  { name := Listing.screenName R
    config
    collection := records
    loaded := true
    busy
    filters := arrangement.filters R
    sort := Listing.initialSort
    groupBy := arrangement.groupBy
    selection :=
      if arrangement.selectAll then Selection.empty.insertAll (matching.map Record.id) else .empty
    viewMode := arrangement.viewMode
    density := arrangement.density
    pager := Pager.goTo ⟨1, max arrangement.pageSize 1, matching.length⟩ arrangement.page
    viewport :=
      (Viewport.new estimate config.containerHeight config.overscan).restarted matching.length }

/-- The screen before it has a collection. -/
def unloaded (R : Type) [Record R] [Listing R] (viewMode : Selector ViewModePolicy ViewMode)
    (density : Selector DensityPolicy Density) (config : Settings α) : Screen R α :=
  { name := Listing.screenName R
    config
    collection := []
    loaded := false
    busy := []
    filters := .none
    sort := Listing.initialSort
    groupBy := .status
    selection := .empty
    viewMode
    density
    pager := .ofSize config.pageSize
    viewport :=
      .new (Screen.estimateFor R density.value) config.containerHeight config.overscan }

section
variable (arrangement : Arrangement) (config : Settings α) (records : List R)
  (busy : List (Record.Id R)) {σ : Type} [PreferenceStore σ] [WorkingStore σ]

omit [PreferenceStore σ] [WorkingStore σ] in
theorem mem_selection {id : Record.Id R} :
    id ∈ (arrangement.screen config records busy).selection.ids ↔
      arrangement.selectAll = true ∧ id ∈ (arrangement.screen config records busy).matchingIds := by
  simp only [screen, Screen.matchingIds, Screen.matching]
  by_cases all : arrangement.selectAll = true
  · simp [all, Selection.mem_insertAll, Selection.empty]
  · simp [all, Selection.empty]

theorem leads_busyChanged (ids : List (Record.Id R)) :
    (arrangement.screen config records busy).Leads σ [.busyChanged ids]
      (arrangement.screen config records ids) := by
  apply Screen.Leads.single
  intro store _
  rfl

theorem leads_selectViewMode (mode : ViewMode) :
    (arrangement.screen config records busy).Leads σ [.selectViewMode mode]
      ({ arrangement with viewMode := arrangement.viewMode.moved (.pin mode) }.screen
        config records busy) := by
  apply Screen.Leads.single
  intro store _
  rfl

theorem leads_autoViewMode :
    (arrangement.screen config records busy).Leads σ [.autoViewMode]
      ({ arrangement with viewMode := arrangement.viewMode.moved .release }.screen
        config records busy) := by
  apply Screen.Leads.single
  intro store _
  rfl

theorem leads_groupBy (groupBy : GroupBy) :
    (arrangement.screen config records busy).Leads σ [.groupBy groupBy]
      ({ arrangement with groupBy }.screen config records busy) := by
  apply Screen.Leads.single
  intro store _
  rfl

theorem leads_setPage (page : Nat) :
    (arrangement.screen config records busy).Leads σ [.setPage page]
      ({ arrangement with page }.screen config records busy) := by
  apply Screen.Leads.single
  intro store _
  rfl

theorem leads_selectAllVisible (unselected : arrangement.selectAll = false) :
    (arrangement.screen config records busy).Leads σ [.selectAllVisible]
      ({ arrangement with selectAll := true }.screen config records busy) := by
  apply Screen.Leads.single
  intro store _
  simp only [Screen.update, Screen.quiet, screen, unselected, if_true]
  rfl

section
variable [SignedCoordinate α]

theorem withDensity_screen (density : Selector DensityPolicy Density) :
    (arrangement.screen config records busy).withDensity density =
      { arrangement with density }.screen config records busy := by
  by_cases same : arrangement.density.value = density.value
  · simp only [Screen.withDensity, screen, same, if_true]
    rfl
  · simp only [Screen.withDensity, screen, same, if_false, Viewport.withEstimate_restarted]
    rfl

theorem leads_selectDensity (density : Density) :
    (arrangement.screen config records busy).Leads σ [.selectDensity density]
      ({ arrangement with density := arrangement.density.moved (.pin density) }.screen
        config records busy) := by
  apply Screen.Leads.single
  intro store _
  exact withDensity_screen arrangement config records busy _

theorem leads_autoDensity :
    (arrangement.screen config records busy).Leads σ [.autoDensity]
      ({ arrangement with density := arrangement.density.moved .release }.screen
        config records busy) := by
  apply Screen.Leads.single
  intro store _
  exact withDensity_screen arrangement config records busy _

theorem leads_searchChanged (text : String) (first : arrangement.page = 1)
    (unselected : arrangement.selectAll = false) :
    (arrangement.screen config records busy).Leads σ [.searchChanged text]
      ({ arrangement with searchText := text }.screen config records busy) := by
  apply Screen.Leads.single
  intro store _
  by_cases same : text = arrangement.searchText
  · subst same
    exact congrArg Turn.screen
      (Screen.update_repeated_search (arrangement.screen config records busy) store)
  · have fresh : text ≠ (arrangement.screen config records busy).filters.searchText := same
    rw [Screen.update, if_neg fresh, Screen.quiet, Screen.withFilters_eq]
    simp only [screen, first, unselected, Bool.false_eq_true, if_false, Pager.goTo_one_of_first]
    rfl

theorem leads_setPageSize (pageSize : Nat) (first : arrangement.page = 1) :
    (arrangement.screen config records busy).Leads σ [.setPageSize pageSize]
      ({ arrangement with pageSize }.screen config records busy) := by
  apply Screen.Leads.single
  intro store _
  simp only [Screen.update, Screen.quiet, Screen.refit, Screen.matching, screen, first,
    Viewport.withCount_restarted, Pager.fitTo_withSize, Pager.goTo_one_of_first]
  rfl

theorem leads_resetPreferences (first : arrangement.page = 1) :
    (arrangement.screen config records busy).Leads σ [.resetPreferences]
      ({ arrangement with
        viewMode :=
          restored config.viewMode (Listing.screenName R) records.length ⟨none, none⟩
        density := restored config.density (Listing.screenName R) records.length ⟨none, none⟩
        pageSize := config.pageSize }.screen config records busy) := by
  apply Screen.Leads.single
  intro store works
  have forgot := works_forgetScreen works (Listing.screenName R) Screen.preferenceNames
  have mode := ofStore_fst forgot config.viewMode (Listing.screenName R) records.length
  have density := Screen.ofStore_fst_of_read forgot config.density config.viewMode
    (Listing.screenName R) records.length
  rw [Screen.storedChoice_forgetScreen ScreenChoice.keeps works] at mode density
  simp only [Screen.update, Screen.quiet, Screen.resetPreferences, Screen.refit, Screen.matching,
    screen, mode, density, first, Viewport.withEstimate_restarted, Viewport.withCount_restarted,
    Pager.fitTo_withSize, Pager.goTo_one_of_first]
  rfl

/-! ## The first collection -/

omit [WorkingStore σ] in
theorem receive_unloaded (viewMode : Selector ViewModePolicy ViewMode)
    (density : Selector DensityPolicy Density) (store : σ) :
    ((unloaded R viewMode density config).update (.collectionUpdated records) store).screen =
      (opening (viewMode.moved (.resize records.length)) (density.moved (.resize records.length))
        config.pageSize).screen config records [] := by
  have unmeasured : (if decide (density.Follows records.length) = true then
        (Viewport.new (Screen.estimateFor R density.value) config.containerHeight
          config.overscan).withEstimate
            (Screen.estimateFor R (density.moved (.resize records.length)).value)
      else
        .new (Screen.estimateFor R density.value) config.containerHeight config.overscan) =
      Viewport.new (Screen.estimateFor R (density.moved (.resize records.length)).value)
        config.containerHeight config.overscan := by
    by_cases follows : density.Follows records.length
    · rw [if_pos (decide_eq_true follows), Viewport.withEstimate_new]
    · have stays : (density.moved (.resize records.length)).value = density.value := if_neg follows
      rw [if_neg (by simpa using follows), stays]
  simp only [Screen.update, Screen.quiet, Screen.receiveCollection, Screen.refit, Screen.matching,
    unloaded, resize_fst, resize_snd, unmeasured, Viewport.forgetMeasured_new,
    Viewport.withCount_new]
  rfl

/-- With its first collection a screen follows what its store tells of it after the version check. -/
theorem screen_opened {store : σ} (works : Works store) :
    let opened : Screen R α × σ := Screen.ofListing R config store
    let checked := (upgradeScreen store (Listing.screenName R) Screen.preferenceNames).2
    (opened.1.update (.collectionUpdated records) opened.2).screen =
      (opening (ofStore config.viewMode checked (Listing.screenName R) records.length).1
        (ofStore config.density checked (Listing.screenName R) records.length).1
        config.pageSize).screen config records [] := by
  intro opened checked
  have works : Works checked :=
    works_upgradeScreen works (Listing.screenName R) Screen.preferenceNames
  have start : opened.1 =
      unloaded R (ofStore config.viewMode checked (Listing.screenName R) 0).1
        (ofStore config.density
          (ofStore config.viewMode checked (Listing.screenName R) 0).2 (Listing.screenName R) 0).1
        config := rfl
  rw [start, receive_unloaded, ofStore_fst works, Screen.ofStore_fst_of_read works,
    ofStore_fst works, ofStore_fst works, moved_restored, moved_restored]

end

end

end Arrangement

end AdaptiveView
