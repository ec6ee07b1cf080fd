import AdaptiveView.VisibleRange
import Mathlib.Algebra.Order.BigOperators.Group.List
import Mathlib.Algebra.Order.Ring.Rat
import Mathlib.Tactic.Linarith

/-!
# What is in view

In exact numbers, the items in view are those that end below the upper edge of the viewport and begin
above its lower edge; where the viewport is past all items, the last one counts as in view.  The visible
range is wider by the overscan on each side, as far as there are items.
-/

set_option autoImplicit false

namespace AdaptiveView

/-! ## Exact coordinates -/

namespace Coordinate

theorem le_iff {x y : Rat} : Coordinate.le x y = true ↔ x ≤ y :=
  decide_eq_true_iff

theorem lt_iff {x y : Rat} : Coordinate.lt x y = true ↔ x < y :=
  decide_eq_true_iff

theorem atLeastZero_eq_max (x : Rat) : atLeastZero x = max x 0 := by
  rw [atLeastZero, max_comm, max_def_lt]
  exact if_congr lt_iff rfl rfl

theorem clamp_eq_max_min (x : Rat) {low high : Rat} (ordered : low ≤ high) :
    clamp x low high = max low (min x high) := by
  unfold clamp
  simp only [lt_iff]
  split
  case isTrue below =>
      rw [max_eq_left ((min_le_left x high).trans below.le)]
  case isFalse above =>
      rw [not_lt] at above
      split
      case isTrue past => rw [min_eq_right past.le, max_eq_right ordered]
      case isFalse within => rw [min_eq_left (not_lt.mp within), max_eq_right above]

end Coordinate

/-! ## The edges between items -/

/-- Where item `index` begins, and where the one before it ends. -/
def edgeAt (heights : List Rat) (index : Nat) : Rat :=
  ((heights.take index).map fun height => max height 0).sum

theorem edgeAt_zero (heights : List Rat) : edgeAt heights 0 = 0 :=
  rfl

theorem edgeAt_cons (height : Rat) (rest : List Rat) (index : Nat) :
    edgeAt (height :: rest) (index + 1) = max height 0 + edgeAt rest index := by
  rw [edgeAt, List.take_succ_cons, List.map_cons, List.sum_cons, edgeAt]

theorem edgeAt_length (heights : List Rat) :
    edgeAt heights heights.length = (heights.map fun height => max height 0).sum := by
  rw [edgeAt, List.take_length]

theorem edgeAt_mono (heights : List Rat) {i j : Nat} (earlier : i ≤ j) :
    edgeAt heights i ≤ edgeAt heights j := by
  have among : ((heights.take i).map fun height => max height 0).Sublist
      ((heights.take j).map fun height => max height 0) :=
    (List.take_sublist_take_left earlier).map _
  apply among.sum_le_sum
  intro height isHeight
  obtain ⟨given, -, rfl⟩ := List.mem_map.mp isHeight
  exact le_max_right given 0

theorem edgeAt_nonneg (heights : List Rat) (index : Nat) : 0 ≤ edgeAt heights index :=
  edgeAt_mono heights (Nat.zero_le index)

theorem offsetsFrom_eq (start : Rat) (heights : List Rat) :
    offsetsFrom start heights =
      (List.range (heights.length + 1)).map fun index => start + edgeAt heights index := by
  induction heights generalizing start with
  | nil => simp [offsetsFrom, edgeAt]
  | cons height rest ih =>
      rw [offsetsFrom, ih, Coordinate.atLeastZero_eq_max, List.length_cons,
        List.range_succ_eq_map (n := rest.length + 1), List.map_cons, List.map_map, edgeAt_zero,
        add_zero]
      congr 1
      apply List.map_congr_left
      intro index _
      change start + max height 0 + edgeAt rest index =
        start + edgeAt (height :: rest) (index + 1)
      rw [edgeAt_cons, add_assoc]

theorem offsetsFrom_zero (heights : List Rat) :
    offsetsFrom 0 heights = (List.range (heights.length + 1)).map (edgeAt heights) := by
  rw [offsetsFrom_eq]
  simp only [zero_add]

/-! ## Counting edges -/

/-- Where a test holds of a first part of a list, it is decided by the length of that part. -/
theorem lt_length_takeWhile_iff {α : Type} {test : α → Bool} {items : List α}
    (falling : items.Pairwise fun a b => test b = true → test a = true) {i : Nat}
    (inside : i < items.length) :
    i < (items.takeWhile test).length ↔ test items[i] = true := by
  induction items generalizing i with
  | nil => exact absurd inside (Nat.not_lt_zero i)
  | cons a rest ih =>
      obtain ⟨first, later⟩ := List.pairwise_cons.mp falling
      by_cases holds : test a = true
      · rw [List.takeWhile_cons_of_pos holds, List.length_cons]
        cases i with
        | zero => simp [holds]
        | succ i => simpa using ih later (by simpa using inside)
      · rw [List.takeWhile_cons_of_neg holds]
        have never : ¬ test (a :: rest)[i] = true := by
          cases i with
          | zero => exact holds
          | succ i => exact fun late => holds (first _ (List.getElem_mem _) late)
        simp [never]

theorem lt_length_takeWhile_range_iff {α : Type} {test : α → Bool} {value : Nat → α}
    (falling : ∀ i j, i ≤ j → test (value j) = true → test (value i) = true) {count i : Nat}
    (inside : i < count) :
    i < (((List.range count).map value).takeWhile test).length ↔ test (value i) = true := by
  have falls : ((List.range count).map value).Pairwise
      fun a b => test b = true → test a = true := by
    rw [List.pairwise_map]
    exact List.pairwise_lt_range.imp fun before => falling _ _ before.le
  rw [lt_length_takeWhile_iff falls (by simpa using inside)]
  simp

section
variable (heights : List Rat)

/-- How many items end above `top` or at it. -/
def endedBy (top : Rat) : Nat :=
  (((List.range heights.length).map fun index => edgeAt heights (index + 1)).takeWhile
    fun finish => Coordinate.le finish top).length

/-- How many items begin above `bottom`. -/
def begunBy (bottom : Rat) : Nat :=
  (((List.range heights.length).map (edgeAt heights)).takeWhile
    fun start => Coordinate.lt start bottom).length

variable {heights} {top bottom : Rat}

theorem begunBy_le : begunBy heights bottom ≤ heights.length := by
  have within := (List.takeWhile_sublist (l := (List.range heights.length).map (edgeAt heights))
    fun start => Coordinate.lt start bottom).length_le
  rw [List.length_map, List.length_range] at within
  exact within

theorem lt_endedBy_iff {index : Nat} (inside : index < heights.length) :
    index < endedBy heights top ↔ edgeAt heights (index + 1) ≤ top := by
  rw [← Coordinate.le_iff]
  apply lt_length_takeWhile_range_iff _ inside
  intro i j earlier ended
  rw [Coordinate.le_iff] at ended ⊢
  exact (edgeAt_mono heights (Nat.succ_le_succ earlier)).trans ended

theorem lt_begunBy_iff {index : Nat} (inside : index < heights.length) :
    index < begunBy heights bottom ↔ edgeAt heights index < bottom := by
  rw [← Coordinate.lt_iff]
  apply lt_length_takeWhile_range_iff _ inside
  intro i j earlier begun
  rw [Coordinate.lt_iff] at begun ⊢
  exact (edgeAt_mono heights earlier).trans_lt begun

end

/-! ## The visible range -/

/-- The scroll position as far as there are items. -/
def viewTop (heights : List Rat) (scroll : Rat) : Rat :=
  max 0 (min scroll (edgeAt heights heights.length))

def firstShown (heights : List Rat) (top : Rat) : Nat :=
  min (endedBy heights top) (heights.length - 1)

def lastShown (heights : List Rat) (top bottom : Rat) : Nat :=
  max (begunBy heights bottom) (firstShown heights top + 1)

section
variable {heights : List Rat} {viewport top : Rat}

theorem drop_take_map_range {β : Type} (value : Nat → β) {count first last : Nat}
    (within : last ≤ count) :
    (((List.range (count + 1)).map value).drop first).take (last - first) =
      (List.range' first (last - first)).map value := by
  have inside : last - first ≤ count + 1 - first := by omega
  rw [← List.map_drop, ← List.map_take, List.range_eq_range', List.drop_range',
    List.take_range'_of_length_ge inside, Nat.mul_one, Nat.zero_add]

theorem getLastD_map_range {β : Type} (value : Nat → β) (count : Nat) (default : β) :
    ((List.range (count + 1)).map value).getLastD default = value count := by
  rw [List.range_succ, List.map_append, List.map_singleton, List.getLastD_concat]

theorem VisibleRange.of_eq (scroll : Rat) (filled : heights ≠ []) (tall : 0 < viewport)
    (overscan : Nat) :
    VisibleRange.of scroll viewport heights overscan =
      let top := viewTop heights scroll
      let first := firstShown heights top - overscan
      let last := min (lastShown heights top (top + viewport) + overscan) heights.length
      ⟨first, last, edgeAt heights heights.length,
        (List.range' first (last - first)).map (edgeAt heights)⟩ := by
  have offsets : offsetsFrom Coordinate.zero heights =
      (List.range (heights.length + 1)).map (edgeAt heights) := offsetsFrom_zero heights
  have total : ((List.range (heights.length + 1)).map (edgeAt heights)).getLastD
      Coordinate.zero = edgeAt heights heights.length := getLastD_map_range _ _ _
  have finishes : ((List.range (heights.length + 1)).map (edgeAt heights)).drop 1 =
      (List.range heights.length).map fun index => edgeAt heights (index + 1) := by
    rw [List.range_succ_eq_map, List.map_cons, List.drop_one, List.tail_cons, List.map_map]
    rfl
  have starts : ((List.range (heights.length + 1)).map (edgeAt heights)).take heights.length =
      (List.range heights.length).map (edgeAt heights) := by
    rw [← List.map_take, List.take_range, Nat.min_eq_left (Nat.le_succ _)]
  have drawn : ¬ (heights.length = 0 ∨ Coordinate.le viewport Coordinate.zero = true) := by
    rintro (empty | flat)
    · exact filled (List.length_eq_zero_iff.mp empty)
    · exact absurd (Coordinate.le_iff.mp flat) (not_le.mpr tall)
  have top : Coordinate.clamp scroll Coordinate.zero (edgeAt heights heights.length) =
      viewTop heights scroll :=
    Coordinate.clamp_eq_max_min scroll (edgeAt_nonneg heights heights.length)
  unfold VisibleRange.of
  dsimp only
  rw [offsets, total, if_neg drawn, finishes, starts, top,
    drop_take_map_range (edgeAt heights) (Nat.min_le_right _ _)]
  rfl

section
variable (scroll : Rat) (filled : heights ≠ []) (tall : 0 < viewport) (overscan : Nat)
include filled tall

theorem VisibleRange.first_of_eq :
    (VisibleRange.of scroll viewport heights overscan).first =
      firstShown heights (viewTop heights scroll) - overscan := by
  rw [VisibleRange.of_eq scroll filled tall overscan]

theorem VisibleRange.last_of_eq :
    (VisibleRange.of scroll viewport heights overscan).last =
      let top := viewTop heights scroll
      min (lastShown heights top (top + viewport) + overscan) heights.length := by
  rw [VisibleRange.of_eq scroll filled tall overscan]

/-- The offsets of a range are those of its own items. -/
theorem VisibleRange.offsets_of_eq :
    let range := VisibleRange.of scroll viewport heights overscan
    range.offsets = (List.range' range.first range.length).map (edgeAt heights) := by
  rw [VisibleRange.of_eq scroll filled tall overscan]
  rfl

theorem VisibleRange.total_of_eq :
    (VisibleRange.of scroll viewport heights overscan).total = edgeAt heights heights.length := by
  rw [VisibleRange.of_eq scroll filled tall overscan]

end

theorem viewTop_nonneg (heights : List Rat) (scroll : Rat) : 0 ≤ viewTop heights scroll :=
  le_max_left 0 _

/-- The first item that ends below `top` does not begin below it. -/
theorem edgeAt_endedBy_le (reached : 0 ≤ top) (inside : endedBy heights top < heights.length) :
    edgeAt heights (endedBy heights top) ≤ top := by
  cases ended : endedBy heights top with
  | zero => exact reached
  | succ before =>
      have earlier : before < endedBy heights top := by omega
      exact (lt_endedBy_iff (by omega)).mp earlier

theorem endedBy_lt (filled : heights ≠ []) (above : top < edgeAt heights heights.length) :
    endedBy heights top < heights.length := by
  have some : 0 < heights.length := List.length_pos_of_ne_nil filled
  have last : heights.length - 1 < heights.length := Nat.sub_one_lt_of_lt some
  by_contra all
  have ended := (lt_endedBy_iff last).mp (Nat.lt_of_lt_of_le last (Nat.not_lt.mp all))
  rw [Nat.sub_add_cancel some] at ended
  exact absurd ended (not_le.mpr above)

theorem endedBy_of_le (below : edgeAt heights heights.length ≤ top) :
    heights.length ≤ endedBy heights top := by
  by_contra fewer
  rw [not_le] at fewer
  have later := edgeAt_mono heights (Nat.succ_le_of_lt fewer)
  exact absurd ((lt_endedBy_iff fewer).mpr (later.trans below)) (Nat.lt_irrefl _)

/-- Before the end of the list the items shown are those that reach into the viewport. -/
theorem shown_iff_of_lt (filled : heights ≠ []) (tall : 0 < viewport) (reached : 0 ≤ top)
    (above : top < edgeAt heights heights.length) (index : Nat) :
    firstShown heights top ≤ index ∧ index < lastShown heights top (top + viewport) ↔
      index < heights.length ∧ top < edgeAt heights (index + 1) ∧
        edgeAt heights index < top + viewport := by
  have inside := endedBy_lt filled above
  have first : firstShown heights top = endedBy heights top :=
    Nat.min_eq_left (Nat.le_sub_one_of_lt inside)
  have begun : endedBy heights top < begunBy heights (top + viewport) :=
    (lt_begunBy_iff inside).mpr
      ((edgeAt_endedBy_le reached inside).trans_lt (lt_add_of_pos_right top tall))
  have last : lastShown heights top (top + viewport) = begunBy heights (top + viewport) := by
    rw [lastShown, first]
    exact Nat.max_eq_left begun
  have within : begunBy heights (top + viewport) ≤ heights.length := begunBy_le
  rw [first, last]
  by_cases present : index < heights.length
  · rw [← lt_begunBy_iff present, ← not_le, ← not_lt, lt_endedBy_iff present]
    simp [present]
  · constructor
    · omega
    · rintro ⟨absurdly, -⟩
      exact absurd absurdly present

/-- At the end of the list the last item is shown. -/
theorem firstShown_at_end (atEnd : top = edgeAt heights heights.length) :
    firstShown heights top = heights.length - 1 := by
  have all := endedBy_of_le atEnd.ge
  exact Nat.min_eq_right ((Nat.sub_le _ _).trans all)

theorem length_le_lastShown_at_end (atEnd : top = edgeAt heights heights.length) (bottom : Rat) :
    heights.length ≤ lastShown heights top bottom := by
  have one : heights.length ≤ heights.length - 1 + 1 := by omega
  rw [lastShown, firstShown_at_end atEnd]
  exact one.trans (Nat.le_max_right _ _)

theorem lastShown_le (filled : heights ≠ []) (bottom : Rat) :
    lastShown heights top bottom ≤ heights.length := by
  have some : 0 < heights.length := List.length_pos_of_ne_nil filled
  have first : firstShown heights top ≤ heights.length - 1 := Nat.min_le_right _ _
  exact Nat.max_le.mpr ⟨begunBy_le, by omega⟩

theorem firstShown_lt_lastShown (bottom : Rat) :
    firstShown heights top < lastShown heights top bottom :=
  Nat.lt_of_lt_of_le (Nat.lt_succ_self _) (Nat.le_max_right _ _)

/-- The range without overscan holds exactly the items that reach into the viewport, or the last item
where the viewport is past all of them; overscan widens it as far as there are items. -/
theorem visible_range_is_exact (scroll : Rat) (overscan : Nat) (filled : heights ≠ [])
    (tall : 0 < viewport) :
    let total := edgeAt heights heights.length
    let top := max 0 (min scroll total)
    let shown := VisibleRange.of scroll viewport heights 0
    let range := VisibleRange.of scroll viewport heights overscan
    (top < total → ∀ index, shown.first ≤ index ∧ index < shown.last ↔
        index < heights.length ∧ top < edgeAt heights (index + 1) ∧
          edgeAt heights index < top + viewport) ∧
      (top = total → shown.first = heights.length - 1 ∧ shown.last = heights.length) ∧
      range.first = shown.first - overscan ∧
      range.last = min heights.length (shown.last + overscan) ∧
      range.first < range.last ∧ range.last ≤ heights.length ∧
      range.offsets = (List.range' range.first range.length).map (edgeAt heights) ∧
      range.total = (heights.map fun height => max height 0).sum := by
  intro total top shown range
  have within : lastShown heights top (top + viewport) ≤ heights.length :=
    lastShown_le filled (top + viewport)
  have some : firstShown heights top < lastShown heights top (top + viewport) :=
    firstShown_lt_lastShown (top + viewport)
  have shownFirst : shown.first = firstShown heights top :=
    VisibleRange.first_of_eq scroll filled tall 0
  have shownLast : shown.last = lastShown heights top (top + viewport) :=
    (VisibleRange.last_of_eq scroll filled tall 0).trans (Nat.min_eq_left within)
  have rangeFirst : range.first = firstShown heights top - overscan :=
    VisibleRange.first_of_eq scroll filled tall overscan
  have rangeLast : range.last =
      min (lastShown heights top (top + viewport) + overscan) heights.length :=
    VisibleRange.last_of_eq scroll filled tall overscan
  refine ⟨?_, ?_, ?_, ?_, ?_, ?_, ?_, ?_⟩
  · intro above index
    rw [shownFirst, shownLast]
    exact shown_iff_of_lt filled tall (viewTop_nonneg heights scroll) above index
  · intro atEnd
    rw [shownFirst, shownLast]
    exact ⟨firstShown_at_end atEnd, Nat.le_antisymm within (length_le_lastShown_at_end atEnd _)⟩
  · rw [rangeFirst, shownFirst]
  · rw [rangeLast, shownLast, Nat.min_comm]
  · rw [rangeFirst, rangeLast]
    omega
  · rw [rangeLast]
    exact Nat.min_le_right _ _
  · exact VisibleRange.offsets_of_eq scroll filled tall overscan
  · exact (VisibleRange.total_of_eq scroll filled tall overscan).trans (edgeAt_length heights)

end

/-- Some of these have no height. -/
def unevenHeights : List Rat :=
  [3, -2, 0, 1 / 2, 4]

/-- A viewport that begins where three items end and ends where the next one does. -/
theorem visible_range_is_exact_in_unevenHeights :
    let shown := VisibleRange.of 3 (1 / 2) unevenHeights 0
    let range := VisibleRange.of 3 (1 / 2) unevenHeights 2
    unevenHeights ≠ [] ∧ (0 : Rat) < 1 / 2 ∧
      (∀ index, shown.first ≤ index ∧ index < shown.last ↔
        index < 5 ∧ 3 < edgeAt unevenHeights (index + 1) ∧
          edgeAt unevenHeights index < 3 + 1 / 2) ∧
      shown.first = 3 ∧ shown.last = 4 ∧ range.first = 1 ∧ range.last = 5 ∧
      range.offsets = [3, 3, 3, 7 / 2] ∧ range.total = 15 / 2 := by
  intro shown range
  have filled : unevenHeights ≠ [] := List.cons_ne_nil _ _
  have tall : (0 : Rat) < 1 / 2 := by norm_num
  have top : max 0 (min 3 (edgeAt unevenHeights unevenHeights.length)) = 3 := by decide +kernel
  have above : (3 : Rat) < edgeAt unevenHeights unevenHeights.length := by decide +kernel
  obtain ⟨inView, -, first, last, -, -, offsets, total⟩ :=
    visible_range_is_exact 3 2 filled tall
  rw [top] at inView
  have shownFirst : shown.first = 3 := by decide +kernel
  have shownLast : shown.last = 4 := by decide +kernel
  have rangeFirst : range.first = 1 := by rw [first, shownFirst]
  have rangeLast : range.last = 5 := by
    rw [last, shownLast]
    rfl
  refine ⟨filled, tall, inView above, shownFirst, shownLast, rangeFirst, rangeLast, ?_, ?_⟩
  · rw [offsets, VisibleRange.length, rangeFirst, rangeLast]
    decide +kernel
  · rw [total]
    decide +kernel

end AdaptiveView
