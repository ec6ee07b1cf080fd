import AdaptiveView.Proofs.Viewport.Bounds
import Mathlib.Algebra.BigOperators.Group.List.Basic

/-!
# Measuring above what is seen

A measured height takes the place of another one, and all items after that one move by the difference.
Where the measured item begins above the viewport the scroll position moves along, so that what is seen
stays in place; the limit of the scroll position moves by the same difference and never holds it back.
Where the item begins in the viewport or below it, what is above it stays.
-/

set_option autoImplicit false

namespace AdaptiveView

open Coordinate

namespace Viewport

/-! ## Beginnings and limits in exact numbers -/

section
variable (v : Viewport Rat)

theorem startOf_eq_sum (item : Nat) : v.startOf item = (v.heights.take item).sum := by
  rw [startOf, List.sum_eq_foldl]
  rfl

theorem scrollLimit_eq_max : v.scrollLimit = max (v.contentHeight - v.height) 0 :=
  atLeastZero_eq_max _

theorem scrollLimit_nonneg : 0 ≤ v.scrollLimit := by
  rw [scrollLimit_eq_max]
  exact le_max_right _ _

theorem scroll_settle : v.settle.scroll = max 0 (min v.scroll v.scrollLimit) :=
  clamp_eq_max_min v.scroll (scrollLimit_nonneg v)

variable {v} {index : Nat} (present : index < v.count)
include present

theorem startOf_noted_of_lt {item : Nat} (later : index < item) (height : Rat) :
    (v.noted index height).startOf item = v.startOf item + (height - v.heightOf index) := by
  have inside : index < (v.heights.take item).length := by
    rw [List.length_take, length_heights]
    exact Nat.lt_min.mpr ⟨later, present⟩
  rw [startOf_eq_sum, startOf_eq_sum, heights_noted, List.take_set, List.sum_set',
    dif_pos inside, List.getElem_take, getElem_heights, neg_add_eq_sub]

theorem contentHeight_noted (height : Rat) :
    (v.noted index height).contentHeight = v.contentHeight + (height - v.heightOf index) := by
  rw [contentHeight, count_noted]
  exact startOf_noted_of_lt present present height

end

namespace Settled

variable {v : Viewport Rat}

theorem startOf_nonneg (settled : v.Settled) (item : Nat) : 0 ≤ v.startOf item := by
  rw [startOf_eq_sum]
  apply List.sum_nonneg
  intro height among
  rw [← settled.heights height (List.mem_of_mem_take among), atLeastZero_eq_max]
  exact le_max_right _ _

theorem scroll_nonneg (settled : v.Settled) : 0 ≤ v.scroll :=
  le_iff.mp settled.reached

theorem scroll_le (settled : v.Settled) : v.scroll ≤ v.scrollLimit :=
  le_iff.mp settled.limited

/-- A viewport that is scrolled at all is filled to its end. -/
theorem scroll_le_of_pos (settled : v.Settled) (scrolled : 0 < v.scroll) :
    v.scroll ≤ v.contentHeight - v.height := by
  have limited := settled.scroll_le
  rw [scrollLimit_eq_max] at limited
  rcases le_max_iff.mp limited with within | flat
  · exact within
  · exact absurd flat (not_le.mpr scrolled)

end Settled

/-! ## One measurement -/

/-- How far a measurement moves the items after the measured one. -/
def shift (v : Viewport Rat) (index : Nat) (height : Rat) : Rat :=
  max height 0 - v.heightOf index

section
variable {v : Viewport Rat} (settled : v.Settled) {index : Nat} (present : index < v.count)
  (height : Rat)
include present

theorem recordHeight_eq :
    v.recordHeight index height =
      if v.shift index height = 0 then (v.noted index (max height 0), false)
      else
        let scroll :=
          if v.startOf index < v.scroll then v.scroll + v.shift index height else v.scroll
        (settle { v.noted index (max height 0) with scroll }, true) := by
  have same_iff : same (v.heightOf index) (max height 0) = true ↔ v.shift index height = 0 := by
    rw [shift, sub_eq_zero, eq_comm (a := max height 0)]
    exact decide_eq_true_iff
  rw [recordHeight_of_accepts ⟨present, rfl⟩, atLeastZero_eq_max]
  simp only [same_iff, lt_iff]
  rfl

theorem startOf_recordHeight (item : Nat) :
    (v.recordHeight index height).1.startOf item =
      (v.noted index (max height 0)).startOf item := by
  rw [recordHeight_eq present]
  split <;> rfl

theorem scrollLimit_recordHeight :
    (v.recordHeight index height).1.scrollLimit =
      max (v.contentHeight + v.shift index height - v.height) 0 := by
  rw [recordHeight_eq present, shift, ← contentHeight_noted present]
  split <;> exact scrollLimit_eq_max _

theorem recordHeight_changes_iff :
    (v.recordHeight index height).2 = true ↔ v.shift index height ≠ 0 := by
  rw [recordHeight_eq present]
  split
  case isTrue still => simp [still]
  case isFalse moved => simp [moved]

include settled

/-- The new scroll position, also where nothing changes: then it was within its limits anyway. -/
theorem scroll_recordHeight :
    let next := (v.recordHeight index height).1
    next.scroll =
      max 0 (min (if v.startOf index < v.scroll then v.scroll + v.shift index height
        else v.scroll) next.scrollLimit) := by
  intro next
  dsimp only [next]
  rw [recordHeight_eq present]
  split
  case isTrue still =>
      have known : max height 0 = v.heightOf index := sub_eq_zero.mp still
      have kept : (v.noted index (v.heightOf index)).scroll = v.scroll := rfl
      rw [still, add_zero, ite_self, known, kept, scrollLimit_noted_heightOf present,
        min_eq_left settled.scroll_le, max_eq_right settled.scroll_nonneg]
  case isFalse => exact scroll_settle _

/-- The limit moves with the scroll position and never holds it back. -/
theorem shifted_scroll_le (above : v.startOf index < v.scroll) :
    v.scroll + v.shift index height ≤ (v.recordHeight index height).1.scrollLimit := by
  -- A viewport that is scrolled has content below it: its limit is not held at zero before the change.
  have scrolled : 0 < v.scroll := (settled.startOf_nonneg index).trans_lt above
  have filled := settled.scroll_le_of_pos scrolled
  rw [scrollLimit_recordHeight present]
  apply le_max_of_le_left
  linarith

theorem scroll_of_above (above : v.startOf index < v.scroll) :
    (v.recordHeight index height).1.scroll = max 0 (v.scroll + v.shift index height) := by
  rw [scroll_recordHeight settled present, if_pos above,
    min_eq_left (shifted_scroll_le settled present height above)]

theorem scroll_of_wholly_above (above : v.startOf index < v.scroll)
    (wholly : v.startOf index + v.heightOf index ≤ v.scroll) :
    (v.recordHeight index height).1.scroll = v.scroll + v.shift index height := by
  have begins := settled.startOf_nonneg index
  have taken : 0 ≤ max height 0 := le_max_right height 0
  -- At most the whole old height is taken away, and all of it is above the scroll position.
  have positive : 0 ≤ v.scroll + v.shift index height := by
    rw [shift]
    linarith
  rw [scroll_of_above settled present height above, max_eq_right positive]

theorem scroll_of_below (below : v.scroll ≤ v.startOf index) :
    let next := (v.recordHeight index height).1
    next.scroll = min v.scroll next.scrollLimit := by
  intro next
  have within : 0 ≤ min v.scroll next.scrollLimit :=
    le_min settled.scroll_nonneg (scrollLimit_nonneg next)
  rw [scroll_recordHeight settled present, if_neg (not_lt.mpr below), max_eq_right within]

end

/-- Where a height is measured above what is seen, the scroll position moves by the difference and its
limit does not hold it back; what is seen stays in place if the item is above it altogether.  Elsewhere
all items up to the measured one stay, and only the limit can move the scroll position.  A measurement
tells whether there was a difference. -/
theorem measuring_keeps_view_in_place {v : Viewport Rat} (reached : v.Reached) {index : Nat}
    (present : index < v.count) (height : Rat) :
    let change := max height 0 - v.heightOf index
    let next := (v.recordHeight index height).1
    (v.startOf index < v.scroll →
        v.scroll + change ≤ next.scrollLimit ∧ next.scroll = max 0 (v.scroll + change) ∧
          (v.startOf index + v.heightOf index ≤ v.scroll →
            next.scroll = v.scroll + change ∧
              ∀ item, index < item →
                next.startOf item - next.scroll = v.startOf item - v.scroll)) ∧
      (v.scroll ≤ v.startOf index →
        next.scroll = min v.scroll next.scrollLimit ∧
          ∀ item, item ≤ index → next.startOf item = v.startOf item) ∧
      ((v.recordHeight index height).2 = true ↔ change ≠ 0) := by
  intro change next
  have settled : v.Settled := reached.settled
  refine ⟨?_, ?_, recordHeight_changes_iff present height⟩
  · intro above
    refine ⟨shifted_scroll_le settled present height above,
      scroll_of_above settled present height above, ?_⟩
    intro wholly
    have along : next.scroll = v.scroll + change :=
      scroll_of_wholly_above settled present height above wholly
    refine ⟨along, ?_⟩
    intro item later
    rw [along, startOf_recordHeight present, startOf_noted_of_lt present later]
    exact add_sub_add_right_eq_sub _ _ _
  · intro below
    refine ⟨scroll_of_below settled present height below, ?_⟩
    intro item earlier
    rw [startOf_recordHeight present, startOf_noted_of_le v earlier]

/-- Six items of which one has been measured, scrolled into the fourth. -/
def scrolledList : Viewport Rat :=
  (new 10 20 0).after [.count 6, .record 1 15, .scroll 40]

/-- The second item ends above what is seen, the fourth begins above it, and the last is below. -/
theorem measuring_keeps_scrolledList_in_place :
    let shorter := (scrolledList.recordHeight 1 5).1
    let cut := (scrolledList.recordHeight 3 0).1
    let ended := (scrolledList.recordHeight 5 0).1
    scrolledList.Reached ∧ scrolledList.count = 6 ∧ shorter.scroll = 30 ∧
      (∀ item, 1 < item → shorter.startOf item - 30 = scrolledList.startOf item - 40) ∧
      cut.scroll = 30 ∧ ended.scrollLimit = 35 ∧ ended.scroll = 35 := by
  intro shorter cut ended
  have reached : scrolledList.Reached := ⟨10, 20, 0, _, rfl⟩
  have scroll : scrolledList.scroll = 40 := by decide +kernel
  have second : 1 < scrolledList.count := by decide
  have fourth : 3 < scrolledList.count := by decide
  have sixth : 5 < scrolledList.count := by decide
  obtain ⟨moved, -, -⟩ := measuring_keeps_view_in_place reached second 5
  obtain ⟨-, -, inPlace⟩ := moved (by decide +kernel)
  obtain ⟨along, still⟩ := inPlace (by decide +kernel)
  have shorterScroll : shorter.scroll = 30 := by
    rw [along]
    decide +kernel
  obtain ⟨movedToo, -, -⟩ := measuring_keeps_view_in_place reached fourth 0
  obtain ⟨-, cutScroll, -⟩ := movedToo (by decide +kernel)
  obtain ⟨-, held, -⟩ := measuring_keeps_view_in_place reached sixth 0
  obtain ⟨endedScroll, -⟩ := held (by decide +kernel)
  have limit : ended.scrollLimit = 35 := by decide +kernel
  refine ⟨reached, rfl, shorterScroll, ?_, ?_, limit, ?_⟩
  · intro item later
    rw [← shorterScroll, ← scroll]
    exact still item later
  · exact cutScroll.trans (by decide +kernel)
  · rw [endedScroll, limit]
    decide +kernel

end Viewport

end AdaptiveView
