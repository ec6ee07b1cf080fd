import AdaptiveView.Proofs.Decimal.Signs
import AdaptiveView.Proofs.Screen.Aligned
import Mathlib.Algebra.Order.Ring.Rat

/-!
# Filters, one after the other

Whatever filters are set, the list that passes them is shown from its start: the first page, scrolled
to the top, no row measured.  So of several filter messages the last state of the filters is all that
is left.  Lists of other lengths, which pages and scrolling were fitted to on the way, leave no trace.

A search for the text that is searched for already is no filter message in this sense, because the
screen stays as it is.
-/

set_option autoImplicit false

namespace AdaptiveView

open Coordinate

/-! ## The start of the scroll axis -/

/-- Zero is a scroll position, and what is above it is not below it. -/
class SignedCoordinate (α : Type) [Coordinate α] : Prop where
  isFinite_zero : isFinite (zero : α) = true
  not_lt_zero : ∀ {x : α}, lt zero x = true → lt x zero = false

instance : SignedCoordinate Float where
  isFinite_zero := by decide
  not_lt_zero := Float.not_lt_zero

instance : SignedCoordinate Rat where
  isFinite_zero := rfl
  not_lt_zero := by
    intro x above
    have positive : 0 < x := of_decide_eq_true above
    exact decide_eq_false (not_lt_of_gt positive)

open SignedCoordinate

theorem clamp_zero {α : Type} [Coordinate α] [SignedCoordinate α] (x : α) :
    clamp zero zero (atLeastZero x) = (zero : α) := by
  have highest : lt (atLeastZero x) zero = true → lt (zero : α) zero = true := by
    intro below
    by_cases above : lt zero x = true
    · rw [atLeastZero, if_pos above, not_lt_zero above] at below
      cases below
    · rwa [atLeastZero, if_neg above] at below
  unfold clamp
  split
  · rfl
  · split
    case isTrue none below => exact absurd (highest below) none
    case isFalse => rfl

namespace Viewport

variable {α : Type} [Coordinate α]

/-- The start of a list of so many items, none of which has been measured. -/
def restarted (v : Viewport α) (count : Nat) : Viewport α :=
  { v with measured := List.replicate count none, scroll := zero }

theorem settle_at_top [SignedCoordinate α] {v : Viewport α} (top : v.scroll = zero) :
    v.settle = v := by
  have stays : clamp v.scroll zero v.scrollLimit = v.scroll := by
    rw [top]
    exact clamp_zero _
  have finite : isFinite v.scroll = true := by
    rw [top]
    exact isFinite_zero
  simp only [settle, finite, if_true, stays]

theorem withCount_scrolledTo_zero [SignedCoordinate α] (v : Viewport α) (count : Nat) :
    (v.forgetMeasured.scrolledTo zero).withCount count = v.restarted count := by
  have top : v.forgetMeasured.scrolledTo zero = { v.forgetMeasured with scroll := zero } :=
    settle_at_top rfl
  have forgotten : v.forgetMeasured.measured = List.replicate v.count none := by
    simp [forgetMeasured, settle, Viewport.count, List.map_const']
  have filled : (List.replicate v.count none : List (Option α)).take count ++
      List.replicate (count - v.count) none = List.replicate count none := by
    rw [List.take_replicate, List.replicate_append_replicate]
    congr 1
    omega
  have counted : Viewport.count { v.forgetMeasured with scroll := zero } = v.count :=
    count_forgetMeasured v
  rw [top, withCount, settle_at_top rfl]
  dsimp only
  rw [counted, forgotten, filled]
  rfl

end Viewport

namespace Pager

/-- The first page of so many items. -/
def restarted (pager : Pager) (totalItems : Nat) : Pager :=
  { pager with pageIndex := 1, totalItems }

theorem goTo_one (pager : Pager) : pager.goTo 1 = { pager with pageIndex := 1 } := by
  have first : (PageWindow.of 1 pager.pageSize pager.totalItems).pageIndex = 1 :=
    clampNat_of_bounds (Nat.le_refl 1) (Nat.le_max_right _ 1)
  simp only [goTo, window, first]

theorem fitTo_goTo_one (pager : Pager) (totalItems : Nat) :
    (pager.goTo 1).fitTo totalItems = pager.restarted totalItems := by
  rw [goTo_one, fitTo, goTo_one]
  rfl

end Pager

/-! ## Filter messages -/

def Message.isFilter {R : Type} [Record R] {α : Type} : Message R α → Bool
  | .searchChanged _ | .statusFilter _ | .categoryFilter _ | .secondaryFilter _ => true
  | .resetFilters => true
  | _ => false

namespace Screen

variable {R : Type} [Record R] {α : Type} [Coordinate α]

/-- Pages and scrolling are at the start of what passes the filters, and no row is measured. -/
structure AtTop (screen : Screen R α) : Prop where
  page : screen.pager.pageIndex = 1
  scroll : screen.viewport.scroll = zero
  unmeasured : screen.viewport.Unmeasured
  paged : screen.pager.totalItems = screen.matching.length
  scrolled : screen.viewport.count = screen.matching.length

section
variable [SignedCoordinate α]

theorem withFilters_eq (screen : Screen R α) (filters : Filters R) :
    let count := (filters.apply screen.collection).length
    screen.withFilters filters =
      { screen with
        filters
        pager := screen.pager.restarted count
        viewport := screen.viewport.restarted count } := by
  intro count
  simp only [withFilters, refit, matching, Pager.fitTo_goTo_one,
    Viewport.withCount_scrolledTo_zero, count]

/-- Of two states of the filters the later one is all that is left. -/
theorem withFilters_withFilters (screen : Screen R α) (first second : Filters R) :
    (screen.withFilters first).withFilters second = screen.withFilters second := by
  rw [withFilters_eq, withFilters_eq, withFilters_eq]
  rfl

theorem atTop_withFilters (screen : Screen R α) (filters : Filters R) :
    (screen.withFilters filters).AtTop := by
  rw [withFilters_eq]
  constructor
  case page => rfl
  case scroll => rfl
  case unmeasured =>
    intro height inside
    exact List.eq_of_mem_replicate inside
  case paged => rfl
  case scrolled => exact List.length_replicate

end

section
variable {σ : Type} [PreferenceStore σ]

/-- Some message, when it comes, is more than a search for the text that is searched for already. -/
def Refilters (screen : Screen R α) (store : σ) : List (Message R α) → Prop
  | [] => False
  | message :: rest =>
      message ≠ .searchChanged screen.filters.searchText ∨
        let turn := screen.update message store
        turn.screen.Refilters turn.store rest

theorem update_repeated_search (screen : Screen R α) (store : σ) :
    screen.update (.searchChanged screen.filters.searchText) store = ⟨screen, store, []⟩ := by
  simp [update, quiet]

theorem refilters_repeated_search (screen : Screen R α) (store : σ) (rest : List (Message R α)) :
    screen.Refilters store (.searchChanged screen.filters.searchText :: rest) ↔
      screen.Refilters store rest := by
  rw [Refilters, update_repeated_search]
  constructor
  · rintro (fresh | further)
    · exact absurd rfl fresh
    · exact further
  · exact Or.inr

theorem updateAll_repeated_search (screen : Screen R α) (store : σ)
    (rest : List (Message R α)) :
    screen.updateAll store (.searchChanged screen.filters.searchText :: rest) =
      screen.updateAll store rest := by
  rw [updateAll, update_repeated_search]
  rfl

theorem update_of_isFilter {screen : Screen R α} {message : Message R α}
    (isFilter : message.isFilter = true)
    (fresh : message ≠ .searchChanged screen.filters.searchText) (store : σ) :
    ∃ filters, screen.update message store = ⟨screen.withFilters filters, store, []⟩ := by
  cases message with
  | searchChanged text =>
      have other : text ≠ screen.filters.searchText := by
        intro same
        exact fresh (congrArg Message.searchChanged same)
      rw [update, if_neg other]
      exact ⟨_, rfl⟩
  | statusFilter _ | categoryFilter _ | secondaryFilter _ | resetFilters => exact ⟨_, rfl⟩
  | _ => cases isFilter

/-- A run of filter messages either leaves the screen alone or amounts to its last filters. -/
theorem updateAll_of_isFilter [SignedCoordinate α] :
    ∀ {messages : List (Message R α)}, (∀ message ∈ messages, message.isFilter = true) →
      ∀ (screen : Screen R α) (store : σ), ∃ ended,
        screen.updateAll store messages = ⟨ended, store, []⟩ ∧
          (screen.Refilters store messages → ended = screen.withFilters ended.filters) ∧
          (¬ screen.Refilters store messages → ended = screen) := by
  intro messages
  induction messages with
  | nil =>
      intro _ screen store
      refine ⟨screen, rfl, ?_, fun _ => rfl⟩
      intro refilters
      cases refilters
  | cons message rest ih =>
      intro filters screen store
      have later := ih fun next among => filters next (List.mem_cons_of_mem _ among)
      have isFilter := filters message List.mem_cons_self
      by_cases repeated : message = .searchChanged screen.filters.searchText
      · rw [repeated, updateAll_repeated_search, refilters_repeated_search]
        exact later screen store
      · obtain ⟨chosen, turned⟩ := update_of_isFilter isFilter repeated store
        obtain ⟨ended, run, refiltered, unfiltered⟩ := later (screen.withFilters chosen) store
        refine ⟨ended, ?_, ?_, ?_⟩
        · simp only [updateAll, turned, run, List.append_nil]
        · intro _
          by_cases again : (screen.withFilters chosen).Refilters store rest
          · have last := refiltered again
            rwa [withFilters_withFilters] at last
          · rw [unfiltered again]
            rfl
        · intro idle
          exact absurd (.inl repeated) idle

/-- Two runs of filter messages that end with the same filters end with the same screen, which shows
its list from the start. -/
theorem last_filters_decide [SignedCoordinate α] (screen : Screen R α) (store : σ)
    {first second : List (Message R α)}
    (filters : ∀ message ∈ first ++ second, message.isFilter = true)
    (firstRefilters : screen.Refilters store first)
    (secondRefilters : screen.Refilters store second)
    (same : (screen.updateAll store first).screen.filters =
      (screen.updateAll store second).screen.filters) :
    let one := screen.updateAll store first
    let other := screen.updateAll store second
    one = other ∧ one.screen.AtTop ∧ one.screen.selection = screen.selection ∧
      ∀ now, one.screen.plan now = other.screen.plan now := by
  intro one other
  obtain ⟨ended, run, refiltered, -⟩ := updateAll_of_isFilter
    (fun message among => filters message (List.mem_append_left _ among)) screen store
  obtain ⟨endedToo, runToo, refilteredToo, -⟩ := updateAll_of_isFilter
    (fun message among => filters message (List.mem_append_right _ among)) screen store
  rw [run, runToo] at same
  have sameScreen : ended = endedToo := by
    calc
      ended = screen.withFilters ended.filters := refiltered firstRefilters
      _ = screen.withFilters endedToo.filters := by rw [same]
      _ = endedToo := (refilteredToo secondRefilters).symm
  have equal : one = other := by
    simp only [one, other, run, runToo, sameScreen]
  have narrowed : one.screen = screen.withFilters ended.filters := by
    simp only [one, run]
    exact refiltered firstRefilters
  refine ⟨equal, ?_, ?_, ?_⟩
  · rw [narrowed]
    exact screen.atTop_withFilters _
  · rw [narrowed]
    rfl
  · intro now
    rw [equal]

/-- From the last page of a filtered table, by way of a longer list and by way of none. -/
theorem last_filters_decide_in_filteredTable :
    let direct : List (Message Account Float) :=
      [.statusFilter .all, .searchChanged "b@", .searchChanged "b@"]
    let detour : List (Message Account Float) :=
      [.searchChanged "", .statusFilter (.only .disabled), .resetFilters, .searchChanged "b@"]
    filteredTable.pager.pageIndex = 2 ∧
      filteredTable.updateAll MemoryStore.new direct =
        filteredTable.updateAll MemoryStore.new detour ∧
      (filteredTable.updateAll MemoryStore.new direct).screen.AtTop := by
  intro direct detour
  have searched : filteredTable.filters.searchText = "" := rfl
  have directly : filteredTable.Refilters MemoryStore.new direct := by
    apply Or.inl
    intro repeated
    cases repeated
  have byDetour : filteredTable.Refilters MemoryStore.new detour := by
    apply Or.inr
    apply Or.inl
    intro repeated
    cases repeated
  have filters : ∀ message ∈ direct ++ detour, message.isFilter = true := by
    intro message among
    simp only [direct, detour, List.cons_append, List.nil_append, List.mem_cons,
      List.not_mem_nil, or_false] at among
    rcases among with rfl | rfl | rfl | rfl | rfl | rfl | rfl <;> rfl
  have same : (filteredTable.updateAll MemoryStore.new direct).screen.filters =
      (filteredTable.updateAll MemoryStore.new detour).screen.filters := by
    decide +kernel
  obtain ⟨equal, top, -⟩ :=
    last_filters_decide filteredTable MemoryStore.new filters directly byDetour same
  exact ⟨by decide, equal, top⟩

end

end Screen

end AdaptiveView
