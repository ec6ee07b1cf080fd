import AdaptiveView.Proofs.Viewport.Exact
import AdaptiveView.Viewport

/-!
# What a viewport keeps

Whatever is done to a viewport, no height is negative and the scroll position stays between zero and the
last position that fills the viewport.  The beginnings of items are summed up in two ways, for one item
and for a whole visible range; because no height is negative, the two agree to the last operation.
-/

set_option autoImplicit false

namespace AdaptiveView

open Coordinate

/-! ## Edges between items of no negative height -/

section
variable {α : Type} [Coordinate α]

theorem offsetsFrom_of_nonnegative (start : α) {heights : List α}
    (nonnegative : ∀ height ∈ heights, atLeastZero height = height) :
    offsetsFrom start heights =
      (List.range (heights.length + 1)).map fun index => (heights.take index).foldl add start := by
  induction heights generalizing start with
  | nil => rfl
  | cons height rest ih =>
      rw [List.forall_mem_cons] at nonnegative
      rw [offsetsFrom, nonnegative.1, ih _ nonnegative.2, List.length_cons,
        List.range_succ_eq_map (n := rest.length + 1), List.map_cons, List.map_map]
      rfl

end

namespace Viewport

variable {α : Type} [Coordinate α]

/-! ## Runs -/

/-- What can be done to a viewport. -/
inductive Step (α : Type) where
  | count (count : Nat)
  | forget
  | estimate (estimate : α)
  | height (height : α)
  | scroll (position : α)
  | record (index : Nat) (height : α)

def step (v : Viewport α) : Step α → Viewport α
  | .count count => v.withCount count
  | .forget => v.forgetMeasured
  | .estimate estimate => v.withEstimate estimate
  | .height height => v.withHeight height
  | .scroll position => v.scrolledTo position
  | .record index height => (v.recordHeight index height).1

def after (v : Viewport α) : List (Step α) → Viewport α
  | [] => v
  | step :: rest => (v.step step).after rest

def Reached (v : Viewport α) : Prop :=
  ∃ estimate height overscan steps, v = (new estimate height overscan).after steps

/-! ## Recording a height -/

/-- The height is known for this item, and nothing has been moved. -/
def noted (v : Viewport α) (index : Nat) (height : α) : Viewport α :=
  { v with measured := v.measured.set index (some height) }

omit [Coordinate α] in
theorem heights_noted (v : Viewport α) (index : Nat) (height : α) :
    (v.noted index height).heights = v.heights.set index height := by
  rw [heights, heights, noted, List.map_set]
  rfl

omit [Coordinate α] in
theorem getElem_heights (v : Viewport α) {index : Nat} (present : index < v.heights.length) :
    v.heights[index] = v.heightOf index := by
  have inside : index < v.measured.length := by
    rwa [length_heights] at present
  simp only [heights, heightOf, List.getElem_map, List.getElem?_eq_getElem inside,
    Option.join_some]

omit [Coordinate α] in
@[simp]
theorem count_noted (v : Viewport α) (index : Nat) (height : α) :
    (v.noted index height).count = v.count :=
  List.length_set

/-- Noting the height that an item has anyway changes no limit. -/
theorem scrollLimit_noted_heightOf {v : Viewport α} {index : Nat} (present : index < v.count) :
    (v.noted index (v.heightOf index)).scrollLimit = v.scrollLimit := by
  have inside : index < v.heights.length := by
    rwa [length_heights]
  have heights : (v.noted index (v.heightOf index)).heights = v.heights := by
    rw [heights_noted, ← getElem_heights v inside, List.set_getElem_self]
  simp only [scrollLimit, contentHeight, startOf, count_noted, heights]
  rfl

theorem startOf_noted_of_le (v : Viewport α) {index item : Nat} (earlier : item ≤ index)
    (height : α) : (v.noted index height).startOf item = v.startOf item := by
  rw [startOf, startOf, heights_noted, List.take_set_of_le earlier]

theorem recordHeight_of_accepts {v : Viewport α} {index : Nat} {height : α}
    (accepts : v.Accepts index height) :
    v.recordHeight index height =
      let taken := atLeastZero height
      let old := v.heightOf index
      let noted := v.noted index taken
      if same old taken then (noted, false)
      else
        let scroll :=
          if lt (v.startOf index) v.scroll then add v.scroll (sub taken old) else v.scroll
        (settle { noted with scroll }, true) := by
  obtain ⟨present, finite⟩ := accepts
  have taken : ¬ (v.count ≤ index ∨ (!isFinite height) = true) := by
    simp [finite, Nat.not_le.mpr present]
  unfold recordHeight
  rw [if_neg taken]
  dsimp only
  rw [← startOf_noted_of_le v (Nat.le_refl index) (atLeastZero height)]
  rfl

/-! ## Heights -/

/-- No height is negative. -/
structure Nonnegative (v : Viewport α) : Prop where
  estimate : atLeastZero v.estimate = v.estimate
  measured : ∀ height, some height ∈ v.measured → atLeastZero height = height

namespace Nonnegative

variable {v : Viewport α}

theorem heightOf (nonnegative : v.Nonnegative) (index : Nat) :
    atLeastZero (v.heightOf index) = v.heightOf index := by
  unfold Viewport.heightOf
  cases found : v.measured[index]? with
  | none => exact nonnegative.estimate
  | some entry =>
      cases entry with
      | none => exact nonnegative.estimate
      | some height => exact nonnegative.measured height (List.mem_of_getElem? found)

theorem heights (nonnegative : v.Nonnegative) :
    ∀ height ∈ v.heights, atLeastZero height = height := by
  intro height among
  obtain ⟨entry, inside, rfl⟩ := List.mem_map.mp among
  cases entry with
  | none => exact nonnegative.estimate
  | some height => exact nonnegative.measured height inside

theorem noted (nonnegative : v.Nonnegative) (index : Nat) (height : α) :
    (v.noted index (atLeastZero height)).Nonnegative where
  estimate := nonnegative.estimate
  measured known among := by
    rcases List.mem_or_eq_of_mem_set among with before | now
    · exact nonnegative.measured known before
    · cases now
      exact atLeastZero_atLeastZero height

theorem of_unmeasured (estimate : atLeastZero v.estimate = v.estimate)
    (unmeasured : v.Unmeasured) : v.Nonnegative where
  estimate := estimate
  measured _ among := nomatch unmeasured _ among

/-! ## Visible ranges -/

theorem offsetsFrom_heights (nonnegative : v.Nonnegative) :
    offsetsFrom zero v.heights = (List.range (v.count + 1)).map v.startOf := by
  rw [offsetsFrom_of_nonnegative zero nonnegative.heights, length_heights]
  rfl

theorem total_visible (nonnegative : v.Nonnegative) : v.visible.total = v.contentHeight := by
  rw [visible, VisibleRange.total_of, nonnegative.offsetsFrom_heights, getLastD_map_range]
  rfl

theorem offsets_visible (nonnegative : v.Nonnegative) :
    v.visible.offsets = (List.range' v.visible.first v.visible.length).map v.startOf := by
  have within : v.visible.last ≤ v.count := by
    rw [← length_heights]
    exact VisibleRange.last_of_le _ _ _ _
  rw [VisibleRange.length, ← drop_take_map_range v.startOf within,
    ← nonnegative.offsetsFrom_heights]
  exact VisibleRange.offsets_of _ _ _ _

end Nonnegative

theorem visible_nonempty [ExactCoordinate α] {v : Viewport α} (filled : 0 < v.count)
    (tall : lt zero v.height = true) : v.visible.first < v.visible.last := by
  apply VisibleRange.first_of_lt_last
  · exact List.ne_nil_of_length_pos (length_heights v ▸ filled)
  · exact not_le_zero_of_lt tall

/-! ## The scroll position -/

/-- No height is negative, and the scroll position is between its limits. -/
structure Settled (v : Viewport α) : Prop extends Nonnegative v where
  reached : le zero v.scroll = true
  limited : le v.scroll v.scrollLimit = true

variable [ExactCoordinate α]

theorem Nonnegative.settle {v : Viewport α} (nonnegative : v.Nonnegative) :
    v.settle.Settled := by
  have finite : isFinite (if isFinite v.scroll then v.scroll else zero) = true := by
    split
    case isTrue finite => exact finite
    case isFalse => exact ExactCoordinate.isFinite_zero
  obtain ⟨reached, limited⟩ := clamp_within finite (zero_le_atLeastZero (sub v.contentHeight v.height))
  exact ⟨⟨nonnegative.estimate, nonnegative.measured⟩, reached, limited⟩

theorem settled_new (estimate height : α) (overscan : Nat) :
    (new estimate height overscan).Settled where
  estimate := atLeastZero_atLeastZero estimate
  measured _ among := nomatch among
  reached := zero_le_zero
  limited := zero_le_atLeastZero _

theorem settled_forgetMeasured {v : Viewport α} (estimate : atLeastZero v.estimate = v.estimate) :
    v.forgetMeasured.Settled := by
  apply Nonnegative.settle
  exact .of_unmeasured estimate (unmeasured_forgetMeasured v)

namespace Settled

variable {v : Viewport α}

theorem withCount (settled : v.Settled) (count : Nat) : (v.withCount count).Settled := by
  apply Nonnegative.settle
  refine ⟨settled.estimate, ?_⟩
  intro height among
  rcases List.mem_append.mp among with kept | new
  · exact settled.measured height (List.mem_of_mem_take kept)
  · cases List.eq_of_mem_replicate new

theorem recordHeight (settled : v.Settled) (index : Nat) (height : α) :
    (v.recordHeight index height).1.Settled := by
  by_cases accepts : v.Accepts index height
  · rw [recordHeight_of_accepts accepts]
    have noted := settled.noted index height
    dsimp only
    split
    case isTrue unchanged =>
        have known : v.heightOf index = atLeastZero height :=
          ExactCoordinate.eq_of_same unchanged
        refine ⟨noted, settled.reached, ?_⟩
        rw [← known, scrollLimit_noted_heightOf accepts.1]
        exact settled.limited
    case isFalse => exact Nonnegative.settle ⟨noted.estimate, noted.measured⟩
  · rw [recordHeight_of_not_accepts accepts]
    exact settled

theorem step (settled : v.Settled) (step : Step α) : (v.step step).Settled := by
  cases step with
  | count count => exact settled.withCount count
  | forget => exact settled_forgetMeasured settled.estimate
  | estimate estimate => exact settled_forgetMeasured (atLeastZero_atLeastZero estimate)
  | height height => exact Nonnegative.settle ⟨settled.estimate, settled.measured⟩
  | scroll position => exact Nonnegative.settle ⟨settled.estimate, settled.measured⟩
  | record index height => exact settled.recordHeight index height

theorem after (settled : v.Settled) (steps : List (Step α)) : (v.after steps).Settled := by
  induction steps generalizing v with
  | nil => exact settled
  | cons step rest ih => exact ih (settled.step step)

end Settled

theorem Reached.settled {v : Viewport α} (reached : v.Reached) : v.Settled := by
  obtain ⟨estimate, height, overscan, steps, rfl⟩ := reached
  exact (settled_new estimate height overscan).after steps

omit [ExactCoordinate α] in
theorem scrolledTo_of_not_finite (v : Viewport α) {position : α}
    (infinite : isFinite position = false) : v.scrolledTo position = v.scrolledTo zero := by
  simp only [scrolledTo, settle, infinite, Bool.false_eq_true, if_false, ite_self]
  rfl

omit [ExactCoordinate α] in
theorem recordHeight_of_not_finite (v : Viewport α) (index : Nat) {height : α}
    (infinite : isFinite height = false) : v.recordHeight index height = (v, false) := by
  apply recordHeight_of_not_accepts
  rintro ⟨-, finite⟩
  rw [infinite] at finite
  cases finite

/-- In exact numbers, and whatever a viewport is given besides, no height is negative, the scroll
position stays within its limits, and the visible range has an item where there is something to see and
begins each of its items where the viewport has it.  A position that is no number counts as zero, and a
height that is none is passed over. -/
theorem bounds_hold_and_edges_agree (estimate height : Extended) (overscan : Nat)
    (steps : List (Step Extended)) :
    let v := (new estimate height overscan).after steps
    let range := v.visible
    (∀ index, le zero (v.heightOf index) = true) ∧
      le zero v.scroll = true ∧
      le v.scroll (atLeastZero (sub v.contentHeight v.height)) = true ∧
      range.total = v.contentHeight ∧
      range.offsets = (List.range' range.first range.length).map v.startOf ∧
      (0 < v.count → lt zero v.height = true → range.first < range.last) ∧
      (∀ position, isFinite position = false → v.scrolledTo position = v.scrolledTo zero) ∧
      ∀ index given, isFinite given = false → v.recordHeight index given = (v, false) := by
  intro v range
  have settled : v.Settled := (settled_new estimate height overscan).after steps
  refine ⟨?_, settled.reached, settled.limited, settled.total_visible, settled.offsets_visible,
    visible_nonempty, ?_, ?_⟩
  · intro index
    rw [← settled.heightOf index]
    exact zero_le_atLeastZero _
  · intro position infinite
    exact scrolledTo_of_not_finite v infinite
  · intro index given infinite
    exact recordHeight_of_not_finite v index infinite

end Viewport

end AdaptiveView
