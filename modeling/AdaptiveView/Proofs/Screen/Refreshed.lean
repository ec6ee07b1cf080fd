import AdaptiveView.Proofs.Screen.Aligned
import AdaptiveView.Proofs.Viewport.Anchored

/-!
# Where a refresh leaves the scroll position

A refreshed collection changes the estimate, forgets what was measured and changes the number of rows, one
after the other, and the scroll position is pulled back between its limits each time.  So it meets a layout
that is neither the old nor the new one: the old number of rows, all of the new height.

In exact numbers the outcome is the old position within the limits of the fewer of the old and the new
rows, all of the new height.  The new layout alone decides unless there are more rows than before.
-/

set_option autoImplicit false

namespace AdaptiveView

open Coordinate

/-! ## A screen moves its viewport step by step -/

namespace Screen

variable {R : Type} [Record R] {α : Type} [Coordinate α]

section
variable {σ : Type} [PreferenceStore σ]

theorem viewport_withDensity (screen : Screen R α) (density : Selector DensityPolicy Density) :
    ∃ steps, (screen.withDensity density).viewport = screen.viewport.after steps := by
  simp only [withDensity]
  split
  · exact ⟨[], rfl⟩
  · exact ⟨[.estimate _], rfl⟩

/-- Whatever a message does to the viewport is done by steps of the viewport itself. -/
theorem viewport_update (screen : Screen R α) (message : Message R α) (store : σ) :
    ∃ steps, (screen.update message store).screen.viewport = screen.viewport.after steps := by
  cases message with
  | collectionUpdated records =>
      simp only [update, quiet, receiveCollection, refit]
      split
      · exact ⟨[.estimate _, .forget, .count _], rfl⟩
      · exact ⟨[.forget, .count _], rfl⟩
  | preferenceChanged change =>
      by_cases own : screen.Owns change
      · simp only [update, quiet, receiveChange_of_own own]
        split
        · exact ⟨[], rfl⟩
        · exact ⟨[.estimate _], rfl⟩
      · simp only [update, quiet, receiveChange_of_foreign own]
        exact ⟨[], rfl⟩
  | searchChanged text =>
      simp only [update]
      split
      · exact ⟨[], rfl⟩
      · exact ⟨[.forget, .scroll _, .count _], rfl⟩
  | statusFilter filter => exact ⟨[.forget, .scroll _, .count _], rfl⟩
  | categoryFilter filter => exact ⟨[.forget, .scroll _, .count _], rfl⟩
  | secondaryFilter filter => exact ⟨[.forget, .scroll _, .count _], rfl⟩
  | resetFilters => exact ⟨[.forget, .scroll _, .count _], rfl⟩
  | sortBy field => exact ⟨[.forget], rfl⟩
  | selectDensity density => exact viewport_withDensity screen _
  | autoDensity => exact viewport_withDensity screen _
  | setPageSize pageSize => exact ⟨[.count _], rfl⟩
  | scrolled offset => exact ⟨[.scroll offset], rfl⟩
  | viewportResized height => exact ⟨[.height height], rfl⟩
  | itemMeasured index height => exact ⟨[.record index height], rfl⟩
  | resetPreferences => exact ⟨[.estimate _, .count _], rfl⟩
  | _ => exact ⟨[], rfl⟩

end

theorem Reached.settled [ExactCoordinate α] {screen : Screen R α} (reached : screen.Reached) :
    screen.viewport.Settled := by
  induction reached with
  | opened name sort config store => exact Viewport.settled_new _ _ _
  | @heard σ _ screen _ message store before =>
      obtain ⟨steps, same⟩ := viewport_update screen message store
      rw [same]
      exact before.after steps

end Screen

/-! ## Rows of one height -/

/-- The last scroll position that fills a viewport with so many rows of this height. -/
def uniformLimit (viewport rowHeight : Rat) (rows : Nat) : Rat :=
  max (rows * rowHeight - viewport) 0

theorem monotone_uniformLimit (viewport : Rat) {rowHeight : Rat} (nonnegative : 0 ≤ rowHeight) :
    Monotone (uniformLimit viewport rowHeight) := by
  intro fewer more ordered
  have rows : (fewer : Rat) * rowHeight ≤ more * rowHeight :=
    mul_le_mul_of_nonneg_right (Nat.cast_le.mpr ordered) nonnegative
  exact max_le_max_right 0 (sub_le_sub_right rows viewport)

namespace Viewport

variable {v : Viewport Rat}

theorem scrollLimit_of_unmeasured (unmeasured : v.Unmeasured) :
    v.scrollLimit = uniformLimit v.height v.estimate v.count := by
  have heights : v.heights = List.replicate v.count v.estimate := by
    rw [List.eq_replicate_iff]
    refine ⟨length_heights v, ?_⟩
    intro height among
    obtain ⟨entry, inside, rfl⟩ := List.mem_map.mp among
    rw [unmeasured entry inside, Option.getD_none]
  rw [scrollLimit_eq_max, uniformLimit, contentHeight, startOf_eq_sum, heights,
    List.take_of_length_le (by rw [List.length_replicate]), List.sum_replicate, nsmul_eq_mul]

theorem scroll_nonneg_settle (v : Viewport Rat) : 0 ≤ v.settle.scroll := by
  rw [scroll_settle]
  exact le_max_left _ _

theorem scroll_settle_of_nonneg (v : Viewport Rat) (reached : 0 ≤ v.scroll) :
    v.settle.scroll = min v.scroll v.settle.scrollLimit := by
  have within : 0 ≤ min v.scroll v.scrollLimit := le_min reached (scrollLimit_nonneg v)
  rw [scroll_settle, max_eq_right within]
  rfl

theorem scroll_forgetMeasured (reached : 0 ≤ v.scroll) :
    v.forgetMeasured.scroll = min v.scroll (uniformLimit v.height v.estimate v.count) := by
  have settled : v.forgetMeasured.scroll = min v.scroll v.forgetMeasured.scrollLimit :=
    scroll_settle_of_nonneg { v with measured := v.measured.map fun _ => none } reached
  rw [settled, scrollLimit_of_unmeasured (unmeasured_forgetMeasured v), count_forgetMeasured]
  rfl

theorem scroll_withCount (reached : 0 ≤ v.scroll) (unmeasured : v.Unmeasured) (rows : Nat) :
    (v.withCount rows).scroll = min v.scroll (uniformLimit v.height v.estimate rows) := by
  have settled : (v.withCount rows).scroll = min v.scroll (v.withCount rows).scrollLimit :=
    scroll_settle_of_nonneg
      { v with measured := v.measured.take rows ++ List.replicate (rows - v.count) none } reached
  rw [settled, scrollLimit_of_unmeasured (unmeasured.withCount rows), count_withCount]
  rfl

theorem scroll_withEstimate (reached : 0 ≤ v.scroll) {estimate : Rat}
    (nonnegative : atLeastZero estimate = estimate) :
    (v.withEstimate estimate).scroll =
      min v.scroll (uniformLimit v.height estimate v.count) := by
  calc (v.withEstimate estimate).scroll
    _ = min v.scroll (uniformLimit v.height (atLeastZero estimate) v.count) :=
        scroll_forgetMeasured (v := { v with estimate := atLeastZero estimate }) reached
    _ = min v.scroll (uniformLimit v.height estimate v.count) := by rw [nonnegative]

/-- All heights forgotten, and then another number of rows. -/
theorem scroll_forgetMeasured_withCount (reached : 0 ≤ v.scroll) (rows : Nat) :
    (v.forgetMeasured.withCount rows).scroll =
      min v.scroll (min (uniformLimit v.height v.estimate v.count)
        (uniformLimit v.height v.estimate rows)) := by
  have forgotten := scroll_forgetMeasured reached
  have stillReached : 0 ≤ v.forgetMeasured.scroll := scroll_nonneg_settle _
  rw [scroll_withCount stillReached (unmeasured_forgetMeasured v), forgotten, min_assoc]
  rfl

/-- Another estimate forgets the heights already; to forget them again changes nothing. -/
theorem scroll_withEstimate_forgetMeasured_withCount (reached : 0 ≤ v.scroll) {estimate : Rat}
    (nonnegative : atLeastZero estimate = estimate) (rows : Nat) :
    ((v.withEstimate estimate).forgetMeasured.withCount rows).scroll =
      min v.scroll (min (uniformLimit v.height estimate v.count)
        (uniformLimit v.height estimate rows)) := by
  have estimated : (v.withEstimate estimate).estimate = estimate := nonnegative
  have height : (v.withEstimate estimate).height = v.height := rfl
  have stillReached : 0 ≤ (v.withEstimate estimate).scroll := scroll_nonneg_settle _
  rw [scroll_forgetMeasured_withCount stillReached, estimated, height, count_withEstimate,
    scroll_withEstimate reached nonnegative, min_assoc,
    ← min_assoc (uniformLimit v.height estimate v.count), min_self]

end Viewport

/-! ## One refresh -/

namespace Screen

variable {R : Type} [Record R]

instance : ExactRows R Rat where
  atLeastZero_estimateFor density := by
    rw [atLeastZero_eq_max]
    exact max_eq_left (Nat.cast_nonneg _)

variable {σ : Type} [PreferenceStore σ]

theorem scroll_receiveCollection {screen : Screen R Rat} (aligned : screen.Aligned)
    (reached : 0 ≤ screen.viewport.scroll) (records : List R) (store : σ) :
    let next := (screen.receiveCollection records store).1
    let limit := uniformLimit screen.viewport.height (estimateFor R next.density.value)
    next.viewport.scroll =
      min screen.viewport.scroll
        (min (limit screen.matching.length) (limit next.matching.length)) := by
  intro next limit
  have density : next.density = screen.density.moved (.resize records.length) :=
    congrArg Prod.fst (Selector.resize_snd screen.density records.length _)
  rw [← aligned.scrolled]
  by_cases follows : screen.density.Follows records.length
  · have viewport : next.viewport =
        ((screen.viewport.withEstimate (estimateFor R next.density.value)).forgetMeasured.withCount
          next.matching.length) := by
      simp only [next, receiveCollection, refit, Selector.resize_fst, follows, decide_true, if_true]
      rfl
    rw [viewport]
    exact Viewport.scroll_withEstimate_forgetMeasured_withCount reached
      (ExactRows.atLeastZero_estimateFor _) _
  · have viewport : next.viewport =
        screen.viewport.forgetMeasured.withCount next.matching.length := by
      simp only [next, receiveCollection, refit, Selector.resize_fst, follows, decide_false,
        Bool.false_eq_true, if_false]
      rfl
    have estimate : screen.viewport.estimate = estimateFor R next.density.value := by
      rw [aligned.estimated, density, Selector.moved, if_neg follows]
    rw [viewport, Viewport.scroll_forgetMeasured_withCount reached, estimate]

theorem height_receiveCollection (screen : Screen R Rat) (records : List R) (store : σ) :
    (screen.receiveCollection records store).1.viewport.height = screen.viewport.height := by
  simp only [receiveCollection, refit]
  split <;> rfl

theorem scrollLimit_receiveCollection {screen : Screen R Rat} {records : List R} {store : σ}
    (aligned : (screen.receiveCollection records store).1.Aligned) :
    let next := (screen.receiveCollection records store).1
    next.viewport.scrollLimit =
      uniformLimit screen.viewport.height (estimateFor R next.density.value)
        next.matching.length := by
  intro next
  have unmeasured : next.viewport.Unmeasured :=
    (Viewport.unmeasured_forgetMeasured _).withCount _
  rw [Viewport.scrollLimit_of_unmeasured unmeasured, aligned.estimated, aligned.scrolled,
    height_receiveCollection]

/-- A refresh leaves the scroll position within the limit of the new layout and within the limit of as many
rows of the new height as there were before, and takes it back no further than that.  Where there are no
more rows than before, only the new layout counts. -/
theorem refresh_scrolls_within_fewer_rows {screen : Screen R Rat} (reached : screen.Reached)
    (records : List R) (store : σ) :
    let next := (screen.update (.collectionUpdated records) store).screen
    let limit := fun rows : Nat =>
      max (rows * (Record.rowHeight R next.density.value : Rat) - screen.viewport.height) 0
    let before := screen.matching.length
    let after := next.matching.length
    next.viewport.scrollLimit = limit after ∧
      next.viewport.scroll = min screen.viewport.scroll (limit (min before after)) ∧
      (after ≤ before →
        next.viewport.scroll = min screen.viewport.scroll next.viewport.scrollLimit) ∧
      (next.viewport.scroll = min screen.viewport.scroll next.viewport.scrollLimit ↔
        min screen.viewport.scroll (limit after) ≤ limit before) := by
  intro next limit before after
  have aligned : screen.Aligned := reached.aligned
  have monotone : Monotone limit := monotone_uniformLimit _ (Nat.cast_nonneg _)
  have newLimit : next.viewport.scrollLimit = limit after :=
    scrollLimit_receiveCollection (reached.heard (.collectionUpdated records) store).aligned
  have scroll : next.viewport.scroll =
      min screen.viewport.scroll (min (limit before) (limit after)) :=
    scroll_receiveCollection aligned reached.settled.scroll_nonneg records store
  refine ⟨newLimit, ?_, ?_, ?_⟩
  · rw [scroll, monotone.map_min]
  · intro fewer
    rw [scroll, newLimit, min_eq_right (monotone fewer)]
  · rw [scroll, newLimit, ← min_assoc, min_right_comm, min_eq_left_iff]

def shortWindow (density : DensityPolicy) : Settings Rat :=
  { (Settings.standard : Settings Rat) with containerHeight := 100, density }

/-- Two of three accounts pass the filter, the first of them is measured, and the end is in view. -/
def endInView : Screen Account Rat :=
  let opened := ofListing Account (shortWindow .standard) MemoryStore.new
  (opened.1.updateAll opened.2
    [.collectionUpdated
        [accountWith "a" .active, accountWith "b" .error, accountWith "c" .active],
      .statusFilter (.only .active), .itemMeasured 0 300, .scrolled 500]).screen

theorem reached_endInView : endInView.Reached :=
  (Reached.opened _ _ _ MemoryStore.new).updateAll _ _

/-- Three accounts pass the filter afterwards, but the height of two of them limits the position. -/
theorem refreshed_endInView_scrolls_within_two_rows :
    let records :=
      [accountWith "a" .active, accountWith "c" .active, accountWith "d" .active]
    let next := (endInView.update (.collectionUpdated records) MemoryStore.new).screen
    endInView.viewport.scroll = 392 ∧ next.viewport.scrollLimit = 476 ∧
      next.viewport.scroll = 284 := by
  intro records next
  obtain ⟨limit, scroll, -, -⟩ :=
    refresh_scrolls_within_fewer_rows reached_endInView records MemoryStore.new
  refine ⟨by decide +kernel, ?_, ?_⟩
  · rw [limit]
    decide +kernel
  · rw [scroll]
    decide +kernel

/-- One account in detail is scrolled to its end. -/
def oneAccountInDetail : Screen Account Rat :=
  let opened := ofListing Account (shortWindow ⟨1, 50⟩) MemoryStore.new
  (opened.1.updateAll opened.2 [.collectionUpdated [accountWith "a" .active], .scrolled 92]).screen

/-- A second account makes both compact.  The new layout leaves room for the old position, and yet the
position is pulled back to where one compact account would end. -/
theorem second_account_pulls_view_back :
    let records := [accountWith "a" .active, accountWith "b" .active]
    let next := (oneAccountInDetail.update (.collectionUpdated records) MemoryStore.new).screen
    oneAccountInDetail.Reached ∧ oneAccountInDetail.viewport.scroll = 92 ∧
      next.density.value = .compact ∧ next.viewport.scrollLimit = 124 ∧
      next.viewport.scroll = 12 ∧
      next.viewport.scroll ≠ min oneAccountInDetail.viewport.scroll next.viewport.scrollLimit := by
  refine ⟨(Reached.opened _ _ _ MemoryStore.new).updateAll _ _, ?_, ?_, ?_, ?_, ?_⟩
  all_goals decide +kernel

end Screen

end AdaptiveView
