import AdaptiveView.Coordinate

/-!
# Visible ranges

Of a long list only the items in the viewport are drawn, and a few more on either side.  Item `i`
reaches from the sum of the heights before it to that sum and its own height; a negative height
counts as zero.
-/

set_option autoImplicit false

namespace AdaptiveView

open Coordinate

/-- The items to draw, from `first` to before `last`, and where each of them begins. -/
structure VisibleRange (α : Type) where
  first : Nat
  last : Nat
  total : α
  offsets : List α

namespace VisibleRange

variable {α : Type} [Coordinate α]

def empty (total : α) : VisibleRange α :=
  ⟨0, 0, total, []⟩

def length (range : VisibleRange α) : Nat :=
  range.last - range.first

def isEmpty (range : VisibleRange α) : Bool :=
  range.first == range.last

def truncate (range : VisibleRange α) (count : Nat) : VisibleRange α :=
  if range.last ≤ count then range
  else
    let first := min range.first count
    { range with first, last := count, offsets := range.offsets.take (count - first) }

end VisibleRange

variable {α : Type} [Coordinate α]

/-- Where each item begins, from `start` on, and at the end where the last one ends. -/
def offsetsFrom (start : α) : List α → List α
  | [] => [start]
  | height :: rest => start :: offsetsFrom (add start (atLeastZero height)) rest

/-- The items that reach into the part of the axis from `scroll` on over `viewport`, and `overscan`
more on each side.  There is always one, even where the scroll position is past the end. -/
def VisibleRange.of (scroll viewport : α) (heights : List α) (overscan : Nat) : VisibleRange α :=
  let count := heights.length
  let offsets := offsetsFrom zero heights
  let total := offsets.getLastD zero
  if count = 0 ∨ le viewport zero then .empty total
  else
    let top := clamp scroll zero total
    let bottom := add top viewport
    let ended := (offsets.drop 1).takeWhile fun finish => le finish top
    let begun := (offsets.take count).takeWhile fun start => lt start bottom
    let firstShown := min ended.length (count - 1)
    let lastShown := max begun.length (firstShown + 1)
    let first := firstShown - overscan
    let last := min (lastShown + overscan) count
    ⟨first, last, total, (offsets.drop first).take (last - first)⟩

theorem length_offsetsFrom (start : α) (heights : List α) :
    (offsetsFrom start heights).length = heights.length + 1 := by
  induction heights generalizing start with
  | nil => rfl
  | cons height rest ih => simp [offsetsFrom, ih]

theorem VisibleRange.last_of_le (scroll viewport : α) (heights : List α) (overscan : Nat) :
    (VisibleRange.of scroll viewport heights overscan).last ≤ heights.length := by
  unfold VisibleRange.of
  dsimp only
  split
  · exact Nat.zero_le _
  · exact Nat.min_le_right _ _

theorem VisibleRange.first_of_le_last (scroll viewport : α) (heights : List α)
    (overscan : Nat) :
    (VisibleRange.of scroll viewport heights overscan).first ≤
      (VisibleRange.of scroll viewport heights overscan).last := by
  unfold VisibleRange.of
  dsimp only
  split
  · exact Nat.le_refl 0
  · dsimp only
    omega

/-- Where there is something to see, at least one item is drawn. -/
theorem VisibleRange.first_of_lt_last (scroll : α) {viewport : α} {heights : List α}
    (overscan : Nat) (filled : heights ≠ []) (tall : le viewport zero = false) :
    (VisibleRange.of scroll viewport heights overscan).first <
      (VisibleRange.of scroll viewport heights overscan).last := by
  have some : 0 < heights.length := List.length_pos_iff.mpr filled
  have drawn : ¬ (heights.length = 0 ∨ le viewport zero = true) := by
    simp [Nat.ne_of_gt some, tall]
  unfold VisibleRange.of
  dsimp only
  rw [if_neg drawn]
  dsimp only
  omega

theorem VisibleRange.total_of (scroll viewport : α) (heights : List α) (overscan : Nat) :
    (VisibleRange.of scroll viewport heights overscan).total =
      (offsetsFrom zero heights).getLastD zero := by
  unfold VisibleRange.of
  dsimp only
  split <;> rfl

theorem VisibleRange.offsets_of (scroll viewport : α) (heights : List α) (overscan : Nat) :
    let range := VisibleRange.of scroll viewport heights overscan
    range.offsets = ((offsetsFrom zero heights).drop range.first).take range.length := by
  unfold VisibleRange.of
  dsimp only
  split <;> rfl

/-- Each item of a range has its offset. -/
theorem VisibleRange.length_offsets_of (scroll viewport : α) (heights : List α)
    (overscan : Nat) :
    (VisibleRange.of scroll viewport heights overscan).offsets.length =
      (VisibleRange.of scroll viewport heights overscan).length := by
  unfold VisibleRange.of
  dsimp only
  split
  · rfl
  · simp only [VisibleRange.length, List.length_take, List.length_drop, length_offsetsFrom]
    omega

omit [Coordinate α] in
theorem VisibleRange.truncate_of_le {range : VisibleRange α} {count : Nat}
    (fits : range.last ≤ count) : range.truncate count = range :=
  if_pos fits

end AdaptiveView
