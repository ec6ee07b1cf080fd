import AdaptiveView.VisibleRange

/-!
# Scrolling through items of different heights

Every item has the estimated height until its own has been measured.  The scroll position always
stays between zero and the last position that fills the viewport.
-/

set_option autoImplicit false

namespace AdaptiveView

open Coordinate

structure Viewport (α : Type) where
  estimate : α
  /-- The measured height of each item that has one. -/
  measured : List (Option α)
  scroll : α
  height : α
  overscan : Nat

namespace Viewport

def standardOverscan : Nat := 5

variable {α : Type} [Coordinate α]

def new (estimate height : α) (overscan : Nat) : Viewport α :=
  ⟨atLeastZero estimate, [], zero, atLeastZero height, overscan⟩

def count (v : Viewport α) : Nat :=
  v.measured.length

/-- The height of an item; the estimate also for one that does not exist. -/
def heightOf (v : Viewport α) (index : Nat) : α :=
  (v.measured[index]?.join).getD v.estimate

def heights (v : Viewport α) : List α :=
  v.measured.map (·.getD v.estimate)

/-- Where an item begins. -/
def startOf (v : Viewport α) (index : Nat) : α :=
  (v.heights.take index).foldl add zero

def contentHeight (v : Viewport α) : α :=
  v.startOf v.count

/-- The last scroll position that fills the viewport. -/
def scrollLimit (v : Viewport α) : α :=
  atLeastZero (sub v.contentHeight v.height)

/-- Pulls the scroll position back between its limits; one that is no number goes to the start. -/
def settle (v : Viewport α) : Viewport α :=
  let scroll := if isFinite v.scroll then v.scroll else zero
  { v with scroll := clamp scroll zero v.scrollLimit }

/-- Another number of items.  Heights stay with their positions. -/
def withCount (v : Viewport α) (count : Nat) : Viewport α :=
  settle
    { v with measured := v.measured.take count ++ List.replicate (count - v.count) none }

def forgetMeasured (v : Viewport α) : Viewport α :=
  settle { v with measured := v.measured.map fun _ => none }

/-- Another estimate makes every measured height stale. -/
def withEstimate (v : Viewport α) (estimate : α) : Viewport α :=
  { v with estimate := atLeastZero estimate }.forgetMeasured

def withHeight (v : Viewport α) (height : α) : Viewport α :=
  settle { v with height := atLeastZero height }

def scrolledTo (v : Viewport α) (scroll : α) : Viewport α :=
  settle { v with scroll }

/-- Records the real height of an item and tells whether that changed anything.  An item that
begins above the viewport moves the scroll position along, so that what is seen stays in place. -/
def recordHeight (v : Viewport α) (index : Nat) (height : α) : Viewport α × Bool :=
  if v.count ≤ index ∨ !isFinite height then (v, false)
  else
    let height := atLeastZero height
    let old := v.heightOf index
    let v := { v with measured := v.measured.set index (some height) }
    if same old height then (v, false)
    else
      let scroll :=
        if lt (v.startOf index) v.scroll then add v.scroll (sub height old) else v.scroll
      (settle { v with scroll }, true)

def visible (v : Viewport α) : VisibleRange α :=
  .of v.scroll v.height v.heights v.overscan

@[simp]
theorem count_settle (v : Viewport α) : v.settle.count = v.count := rfl

@[simp]
theorem count_forgetMeasured (v : Viewport α) : v.forgetMeasured.count = v.count := by
  rw [forgetMeasured, count_settle]
  simp only [count, List.length_map]

@[simp]
theorem count_withEstimate (v : Viewport α) (estimate : α) :
    (v.withEstimate estimate).count = v.count :=
  count_forgetMeasured _

@[simp]
theorem count_withCount (v : Viewport α) (n : Nat) : (v.withCount n).count = n := by
  rw [withCount, count_settle]
  simp only [count, List.length_append, List.length_take, List.length_replicate]
  omega

@[simp]
theorem count_withHeight (v : Viewport α) (height : α) : (v.withHeight height).count = v.count :=
  rfl

@[simp]
theorem count_scrolledTo (v : Viewport α) (scroll : α) : (v.scrolledTo scroll).count = v.count :=
  rfl

@[simp]
theorem count_recordHeight (v : Viewport α) (index : Nat) (height : α) :
    (v.recordHeight index height).1.count = v.count := by
  unfold recordHeight
  split
  · rfl
  · dsimp only
    split <;> simp [count, settle]

@[simp]
theorem estimate_withCount (v : Viewport α) (n : Nat) : (v.withCount n).estimate = v.estimate :=
  rfl

@[simp]
theorem estimate_forgetMeasured (v : Viewport α) : v.forgetMeasured.estimate = v.estimate := rfl

@[simp]
theorem estimate_withEstimate (v : Viewport α) (estimate : α) :
    (v.withEstimate estimate).estimate = atLeastZero estimate := rfl

@[simp]
theorem estimate_withHeight (v : Viewport α) (height : α) :
    (v.withHeight height).estimate = v.estimate := rfl

@[simp]
theorem estimate_scrolledTo (v : Viewport α) (scroll : α) :
    (v.scrolledTo scroll).estimate = v.estimate := rfl

@[simp]
theorem estimate_recordHeight (v : Viewport α) (index : Nat) (height : α) :
    (v.recordHeight index height).1.estimate = v.estimate := by
  unfold recordHeight
  split
  · rfl
  · dsimp only
    split <;> rfl

/-! ## Measured heights -/

/-- A height that is recorded when it is measured: that of an item there is, and a number. -/
def Accepts (v : Viewport α) (index : Nat) (height : α) : Prop :=
  index < v.count ∧ isFinite height = true

/-- Every item has the estimated height. -/
def Unmeasured (v : Viewport α) : Prop :=
  ∀ height ∈ v.measured, height = none

theorem measured_recordHeight_of_accepts {v : Viewport α} {index : Nat} {height : α}
    (accepts : v.Accepts index height) :
    (v.recordHeight index height).1.measured =
      v.measured.set index (some (atLeastZero height)) := by
  obtain ⟨present, finite⟩ := accepts
  have taken : ¬ (v.count ≤ index ∨ (!isFinite height) = true) := by
    simp [finite, Nat.not_le.mpr present]
  unfold recordHeight
  rw [if_neg taken]
  dsimp only
  split <;> rfl

theorem recordHeight_of_not_accepts {v : Viewport α} {index : Nat} {height : α}
    (refused : ¬ v.Accepts index height) : v.recordHeight index height = (v, false) := by
  have passedOver : v.count ≤ index ∨ (!isFinite height) = true := by
    by_cases present : index < v.count
    · have unfit : isFinite height = false := by
        simpa using fun finite => refused ⟨present, finite⟩
      exact .inr (by simp [unfit])
    · exact .inl (Nat.not_lt.mp present)
  unfold recordHeight
  rw [if_pos passedOver]

theorem unmeasured_forgetMeasured (v : Viewport α) : v.forgetMeasured.Unmeasured := by
  intro height inside
  obtain ⟨-, -, forgotten⟩ := List.mem_map.mp inside
  exact forgotten.symm

theorem unmeasured_withEstimate (v : Viewport α) (estimate : α) :
    (v.withEstimate estimate).Unmeasured :=
  unmeasured_forgetMeasured _

theorem Unmeasured.withCount {v : Viewport α} (unmeasured : v.Unmeasured) (count : Nat) :
    (v.withCount count).Unmeasured := by
  intro height inside
  rcases List.mem_append.mp inside with kept | new
  · exact unmeasured height (List.mem_of_mem_take kept)
  · exact List.eq_of_mem_replicate new

theorem measured_withCount_count (v : Viewport α) : (v.withCount v.count).measured = v.measured := by
  simp [withCount, settle, count]

omit [Coordinate α] in
theorem length_heights (v : Viewport α) : v.heights.length = v.count := by
  simp [heights, count]

end Viewport

end AdaptiveView
