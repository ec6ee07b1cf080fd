import AdaptiveView.Proofs.Screen.Choices
import AdaptiveView.Screen.Plan

/-!
# The parts of a screen agree

A screen holds five parts that no message changes all at once: its collection, its filters, its two
selectors, its pager and its viewport.  In every state that messages can bring about they agree: what
is paged and scrolled is what passes the filters, the selectors have heard of the present collection,
and rows are estimated for the present density.

The store may hold anything before each message, so nothing here depends on what is stored, on who
else writes to it or on whether it works at all.
-/

set_option autoImplicit false

namespace AdaptiveView

open Coordinate ScreenChoice

/-! ## Selectors and the size of the collection -/

namespace Selector

variable {P V : Type} [Recommender P V]

/-- The selector has heard of this size, and follows the policy if it is automatic. -/
structure Settled (selector : Selector P V) (policy : P) (count : Nat) : Prop where
  samePolicy : selector.policy = policy
  heard : selector.count = count
  follows : selector.kind = .auto → selector.value = Recommender.recommend policy count

theorem settled_ofStore [Keyed V] {σ : Type} [PreferenceStore σ] (policy : P) (store : σ)
    (screen : String) (count : Nat) :
    (ofStore policy store screen count : Selector P V × σ).1.Settled policy count := by
  refine ⟨rfl, rfl, ?_⟩
  unfold ofStore restore
  dsimp only
  split
  · split
    · intro auto
      cases auto
    · intro _
      rfl
  · intro _
    rfl

theorem Settled.movedIf [DecidableEq V] {selector : Selector P V} {policy : P} {count : Nat}
    (settled : selector.Settled policy count) (next? : Option (SelectorStep V)) :
    (selector.movedIf next?).Settled policy (SelectorStep.countFrom count next?) := by
  obtain ⟨rfl, rfl, follows⟩ := settled
  cases next? with
  | none => exact ⟨rfl, rfl, follows⟩
  | some next =>
      cases next with
      | pin value =>
          refine ⟨rfl, rfl, ?_⟩
          intro auto
          cases auto
      | resize later =>
          refine ⟨rfl, rfl, ?_⟩
          intro auto
          have wasAuto : selector.kind = .auto := auto
          rw [Selector.movedIf, moved_resize_of_auto wasAuto]
          rfl
      | release => exact ⟨rfl, rfl, fun _ => rfl⟩

theorem Settled.succeeds [Keyed V] [DecidableEq V] {σ : Type} [PreferenceStore σ]
    {after before : Selector P V} {policy : P} {count : Nat}
    (settled : before.Settled policy count) {next? : Option (SelectorStep V)} {screen : String}
    (succeeds : Succeeds σ after before next? policy screen count) :
    after.Settled policy (SelectorStep.countFrom count next?) := by
  rcases succeeds with rfl | ⟨rfl, seen, rfl⟩
  · exact settled.movedIf next?
  · exact settled_ofStore policy seen screen count

end Selector

namespace Screen

variable {R : Type} [Record R] {α : Type} [Coordinate α]

/-! ## States that messages bring about -/

/-- A screen that was opened over some store and has heard some messages, each over whatever the
store held by then. -/
inductive Reached : Screen R α → Prop
  | opened {σ : Type} [PreferenceStore σ] (name : String) (sort : SortState (Record.SortField R))
      (config : Settings α) (store : σ) : Reached (new name sort config store).1
  | heard {σ : Type} [PreferenceStore σ] {screen : Screen R α} (reached : Reached screen)
      (message : Message R α) (store : σ) : Reached (screen.update message store).screen

theorem Reached.updateAll {σ : Type} [PreferenceStore σ] {screen : Screen R α}
    (reached : screen.Reached) (store : σ) (messages : List (Message R α)) :
    (screen.updateAll store messages).screen.Reached := by
  induction messages generalizing screen store with
  | nil => exact reached
  | cons message rest later => exact later (reached.heard message store) _

/-! ## The selectors of a screen -/

section
variable {σ : Type} [PreferenceStore σ]

theorem settled_update {P V : Type} [Recommender P V] [Keyed V] [DecidableEq V]
    [ScreenChoice P V] {screen : Screen R α}
    (settled : (held screen : Selector P V).Settled (policyOf screen.config)
      screen.collection.length)
    (message : Message R α) (store : σ) :
    let later := (screen.update message store).screen
    (held later : Selector P V).Settled (policyOf later.config) later.collection.length := by
  have moved := settled.succeeds (succeeds_update P screen message store)
  rw [countFrom_step?] at moved
  intro later
  rw [config_update, collection_update]
  exact moved

/-- Both selectors are the screen's own and have heard of its collection. -/
structure Steady (screen : Screen R α) : Prop extends Rooted screen where
  modeSettled : screen.viewMode.Settled screen.config.viewMode screen.collection.length
  densitySettled : screen.density.Settled screen.config.density screen.collection.length

theorem steady_new (name : String) (sort : SortState (Record.SortField R)) (config : Settings α)
    (store : σ) : (new name sort config store : Screen R α × σ).1.Steady :=
  ⟨rooted_new name sort config store, Selector.settled_ofStore _ _ name 0,
    Selector.settled_ofStore _ _ name 0⟩

theorem Steady.update {screen : Screen R α} (steady : screen.Steady) (message : Message R α)
    (store : σ) : (screen.update message store).screen.Steady :=
  ⟨steady.toRooted.update message store,
    settled_update (P := ViewModePolicy) steady.modeSettled message store,
    settled_update (P := DensityPolicy) steady.densitySettled message store⟩

end

/-! ## What is paged and scrolled -/

/-- Pages and scrolling are over the records that pass the filters. -/
structure Fitted (screen : Screen R α) : Prop where
  scrolled : screen.viewport.count = screen.matching.length
  paged : screen.pager.totalItems = screen.matching.length
  inRange : screen.pager.InRange

theorem fitted_refit (screen : Screen R α) : screen.refit.Fitted :=
  ⟨Viewport.count_withCount _ _, rfl, Pager.inRange_goTo _ _⟩

omit [Coordinate α] in
theorem Fitted.goTo {screen : Screen R α} (fitted : screen.Fitted) (pageIndex : Nat) :
    { screen with pager := screen.pager.goTo pageIndex }.Fitted :=
  ⟨fitted.scrolled, fitted.paged, Pager.inRange_goTo _ _⟩

omit [Coordinate α] in
/-- What is not paged or scrolled may change freely. -/
theorem Fitted.of_same {screen other : Screen R α} (fitted : screen.Fitted)
    (matching : other.matching = screen.matching) (pager : other.pager = screen.pager)
    (count : other.viewport.count = screen.viewport.count) : other.Fitted := by
  obtain ⟨scrolled, paged, inRange⟩ := fitted
  constructor
  · rw [count, matching, scrolled]
  · rw [pager, matching, paged]
  · rw [pager]
    exact inRange

theorem Fitted.withDensity {screen : Screen R α} (fitted : screen.Fitted)
    (density : Selector DensityPolicy Density) : (screen.withDensity density).Fitted := by
  refine fitted.of_same rfl rfl ?_
  simp only [Screen.withDensity]
  split
  · rfl
  · exact Viewport.count_withEstimate _ _

theorem fitted_new {σ : Type} [PreferenceStore σ] (name : String)
    (sort : SortState (Record.SortField R)) (config : Settings α) (store : σ) :
    (new name sort config store : Screen R α × σ).1.Fitted :=
  ⟨rfl, rfl, Nat.le_refl 1, Nat.le_max_left 1 _⟩

theorem Fitted.update {σ : Type} [PreferenceStore σ] {screen : Screen R α}
    (fitted : screen.Fitted) (message : Message R α) (store : σ) :
    (screen.update message store).screen.Fitted := by
  cases message with
  | collectionUpdated records => exact fitted_refit _
  | preferenceChanged change =>
      by_cases own : screen.Owns change
      · simp only [Screen.update, quiet, receiveChange_of_own own]
        refine fitted.of_same rfl rfl ?_
        dsimp only
        split
        · rfl
        · exact Viewport.count_withEstimate _ _
      · simp only [Screen.update, quiet, receiveChange_of_foreign own]
        exact fitted
  | searchChanged text =>
      simp only [Screen.update]
      split
      · exact fitted
      · exact fitted_refit _
  | statusFilter filter => exact fitted_refit _
  | categoryFilter filter => exact fitted_refit _
  | secondaryFilter filter => exact fitted_refit _
  | resetFilters => exact fitted_refit _
  | sortBy field => exact fitted.of_same rfl rfl (Viewport.count_forgetMeasured _)
  | selectDensity density => exact fitted.withDensity _
  | autoDensity => exact fitted.withDensity _
  | setPage pageIndex => exact fitted.goTo _
  | nextPage => exact fitted.goTo _
  | previousPage => exact fitted.goTo _
  | setPageSize pageSize => exact fitted_refit _
  | scrolled offset => exact fitted.of_same rfl rfl (Viewport.count_scrolledTo _ offset)
  | viewportResized height => exact fitted.of_same rfl rfl (Viewport.count_withHeight _ height)
  | itemMeasured index height =>
      exact fitted.of_same rfl rfl (Viewport.count_recordHeight _ index height)
  | resetPreferences => exact fitted_refit _
  | _ => exact fitted.of_same rfl rfl rfl

theorem Reached.fitted {screen : Screen R α} (reached : screen.Reached) : screen.Fitted := by
  induction reached with
  | opened name sort config store => exact fitted_new name sort config store
  | heard _ message store before => exact before.update message store

/-! ## Estimated rows -/

/-- Heights of unmeasured rows that a viewport takes as they are. -/
class ExactRows (R α : Type) [Record R] [Coordinate α] : Prop where
  atLeastZero_estimateFor (density : Density) :
    atLeastZero (estimateFor R density : α) = estimateFor R density

instance : ExactRows Account Float := ⟨fun density => by cases density <;> decide⟩

instance : ExactRows Email Float := ⟨fun density => by cases density <;> decide⟩

open ExactRows

section
variable [ExactRows R α] {σ : Type} [PreferenceStore σ]

theorem estimate_withDensity {screen : Screen R α}
    (estimated : screen.viewport.estimate = estimateFor R screen.density.value)
    (density : Selector DensityPolicy Density) :
    (screen.withDensity density).viewport.estimate = estimateFor R density.value := by
  simp only [withDensity]
  split
  case isTrue same => rw [estimated, same]
  case isFalse => rw [Viewport.estimate_withEstimate, atLeastZero_estimateFor]

theorem estimate_receiveCollection {screen : Screen R α}
    (estimated : screen.viewport.estimate = estimateFor R screen.density.value)
    (records : List R) (store : σ) :
    (screen.receiveCollection records store).1.viewport.estimate =
      estimateFor R (screen.receiveCollection records store).1.density.value := by
  simp only [receiveCollection, refit, Viewport.estimate_withCount,
    Viewport.estimate_forgetMeasured, Selector.resize_fst, Selector.resize_snd, decide_eq_true_eq]
  split
  case isTrue => rw [Viewport.estimate_withEstimate, atLeastZero_estimateFor]
  case isFalse stays => simp only [estimated, Selector.moved, stays, if_false]

theorem estimate_update {screen : Screen R α}
    (estimated : screen.viewport.estimate = estimateFor R screen.density.value)
    (message : Message R α) (store : σ) :
    (screen.update message store).screen.viewport.estimate =
      estimateFor R (screen.update message store).screen.density.value := by
  cases message with
  | collectionUpdated records => exact estimate_receiveCollection estimated records store
  | preferenceChanged change =>
      by_cases own : screen.Owns change
      · simp only [update, quiet, receiveChange_of_own own, Selector.rereadAs]
        split
        · exact estimated
        · rw [Viewport.estimate_withEstimate, atLeastZero_estimateFor]
      · simp only [update, quiet, receiveChange_of_foreign own]
        exact estimated
  | searchChanged text =>
      simp only [update]
      split <;> exact estimated
  | selectDensity density => exact estimate_withDensity estimated _
  | autoDensity => exact estimate_withDensity estimated _
  | sortBy field => exact (Viewport.estimate_forgetMeasured screen.viewport).trans estimated
  | scrolled offset => exact (Viewport.estimate_scrolledTo screen.viewport offset).trans estimated
  | viewportResized height =>
      exact (Viewport.estimate_withHeight screen.viewport height).trans estimated
  | itemMeasured index height =>
      exact (Viewport.estimate_recordHeight screen.viewport index height).trans estimated
  | resetPreferences => exact atLeastZero_estimateFor _
  | _ => exact estimated

end

/-! ## All of it -/

/-- All five parts of a screen agree. -/
structure Aligned (screen : Screen R α) : Prop extends Fitted screen where
  mode : screen.viewMode.Settled screen.config.viewMode screen.collection.length
  density : screen.density.Settled screen.config.density screen.collection.length
  estimated : screen.viewport.estimate = estimateFor R screen.density.value

theorem Reached.aligned [ExactRows R α] {screen : Screen R α} (reached : screen.Reached) :
    screen.Aligned := by
  induction reached with
  | opened name sort config store =>
      constructor
      · exact (Reached.opened name sort config store).fitted
      · exact Selector.settled_ofStore _ _ name 0
      · exact Selector.settled_ofStore _ _ name 0
      · exact atLeastZero_estimateFor _
  | heard reached message store before =>
      constructor
      · exact (reached.heard message store).fitted
      · exact settled_update (P := ViewModePolicy) before.mode message store
      · exact settled_update (P := DensityPolicy) before.density message store
      · exact estimate_update before.estimated message store

/-! ## In the plan -/

omit [Coordinate α] in
theorem length_ordered (screen : Screen R α) :
    screen.ordered.length = screen.matching.length := by
  unfold ordered
  split
  · rfl
  · exact (sortedBy_perm screen.sort screen.matching).length_eq

/-- What a plan takes from the viewport and the pager is what they hold. -/
structure DrawnAsHeld (screen : Screen R α) : Prop where
  untruncated : screen.viewport.visible.last ≤ screen.ordered.length
  range : ∀ now range rows,
    (screen.plan now).body = .virtualized range rows → range = screen.viewport.visible
  window : ∀ now window buttons rows,
    (screen.plan now).body = .paginated window buttons rows → window = screen.pager.window

theorem Fitted.last_visible_le {screen : Screen R α} (fitted : screen.Fitted) :
    screen.viewport.visible.last ≤ screen.ordered.length := by
  rw [length_ordered, ← fitted.scrolled, ← Viewport.length_heights]
  exact VisibleRange.last_of_le _ _ _ _

omit [Coordinate α] in
theorem Fitted.window_ordered {screen : Screen R α} (fitted : screen.Fitted) :
    PageWindow.of screen.pager.window.pageIndex screen.pager.pageSize screen.ordered.length =
      screen.pager.window := by
  rw [length_ordered, ← fitted.paged, Pager.pageIndex_window fitted.inRange]
  rfl

theorem Fitted.drawnAsHeld {screen : Screen R α} (fitted : screen.Fitted) :
    screen.DrawnAsHeld := by
  constructor
  case untruncated => exact fitted.last_visible_le
  case range =>
    intro now range rows body
    simp only [plan, planBody, VisibleRange.truncate_of_le fitted.last_visible_le] at body
    split at body
    · cases body
    · split at body <;> cases body
      rfl
  case window =>
    intro now window buttons rows body
    simp only [plan, planBody, fitted.window_ordered] at body
    split at body
    · cases body
    · split at body <;> cases body
      rfl

/-- In every state of either list all parts agree, so that the plan never cuts a range down and shows
the page that the pager holds. -/
theorem parts_agree :
    (∀ screen : Screen Account Float, screen.Reached → screen.Aligned ∧ screen.DrawnAsHeld) ∧
      ∀ screen : Screen Email Float, screen.Reached → screen.Aligned ∧ screen.DrawnAsHeld := by
  constructor
  · intro screen reached
    have aligned : screen.Aligned := reached.aligned
    exact ⟨aligned, aligned.toFitted.drawnAsHeld⟩
  · intro screen reached
    have aligned : screen.Aligned := reached.aligned
    exact ⟨aligned, aligned.toFitted.drawnAsHeld⟩

def accountWith (uid : String) (status : AccountStatus) : Account where
  uid
  email := uid ++ "@example.org"
  provider := .imap
  protocol := "imap"
  status
  syncEnabled := true
  lastSyncAt := none
  lastSyncStatus := none
  lastSyncError := none
  totalEmails := none
  unreadCount := none
  createdAt := none

/-- Three accounts of which two pass the filter, shown one to a page and past the last page. -/
def filteredTable : Screen Account Float :=
  (Screen.updateAll (ofListing Account .standard MemoryStore.new).1 MemoryStore.new
    [.collectionUpdated
        [accountWith "a" .active, accountWith "b" .error, accountWith "c" .active],
      .selectViewMode .paginatedTable, .setPageSize 1, .setPage 7,
      .statusFilter (.only .active), .setPage 7]).screen

theorem reached_filteredTable : filteredTable.Reached :=
  (Reached.opened _ _ _ MemoryStore.new).updateAll _ _

theorem parts_agree_in_filteredTable :
    filteredTable.Reached ∧ filteredTable.matching.length = 2 ∧
      filteredTable.pager.pageIndex = 2 ∧ filteredTable.Aligned ∧ filteredTable.DrawnAsHeld := by
  obtain ⟨aligned, drawn⟩ := parts_agree.1 filteredTable reached_filteredTable
  exact ⟨reached_filteredTable, by decide, by decide, aligned, drawn⟩

end Screen

end AdaptiveView
