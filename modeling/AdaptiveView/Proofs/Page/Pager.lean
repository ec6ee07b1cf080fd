import AdaptiveView.Proofs.Page.Buttons

/-!
# Runs of a pager

A pager keeps the number of its page, and every step puts it back among the pages there are.  So the page
it keeps is always the page it shows: going on and back moves by one page or not at all, and what has been
pulled back by a shorter list is not put forward again by a longer one.

The step to the next page stops at the largest word.  There is no page beyond it, so this is never seen.
-/

set_option autoImplicit false

namespace AdaptiveView

namespace Pager

/-- What can be asked of a pager.  Any word will do for a page, a size or a number of items. -/
inductive Step where
  | goTo (pageIndex : UInt64)
  | forward
  | back
  | withSize (pageSize : UInt64)
  | fitTo (totalItems : UInt64)

def step (pager : Pager) : Step → Pager
  | .goTo pageIndex => pager.goTo pageIndex.toNat
  | .forward => pager.forward
  | .back => pager.back
  | .withSize pageSize => pager.withSize pageSize.toNat
  | .fitTo totalItems => pager.fitTo totalItems.toNat

def after (pager : Pager) : List Step → Pager
  | [] => pager
  | step :: rest => (pager.step step).after rest

/-- The page is one of the pages there are, a page has items, and the number of all items is a word. -/
structure Orderly (pager : Pager) : Prop where
  inRange : pager.InRange
  sized : 0 < pager.pageSize
  word : pager.totalItems < wordSize

theorem goTo_eq (pager : Pager) (pageIndex : Nat) :
    pager.goTo pageIndex =
      { pager with pageIndex := clampNat pageIndex 1 (max pager.window.totalPages 1) } :=
  rfl

theorem inRange_first {pager : Pager} (first : pager.pageIndex = 1) : pager.InRange := by
  unfold InRange
  omega

theorem orderly_ofSize (pageSize : Nat) : (ofSize pageSize).Orderly where
  inRange := inRange_first rfl
  sized := Nat.le_max_right pageSize 1
  word := Nat.zero_lt_succ _

namespace Orderly

variable {pager : Pager} (orderly : pager.Orderly)
include orderly

theorem goTo (pageIndex : Nat) : (pager.goTo pageIndex).Orderly :=
  ⟨inRange_goTo pager pageIndex, orderly.sized, orderly.word⟩

theorem step (step : Step) : (pager.step step).Orderly := by
  cases step with
  | goTo pageIndex => exact orderly.goTo _
  | forward => exact orderly.goTo _
  | back => exact orderly.goTo _
  | withSize pageSize =>
      exact ⟨inRange_first rfl, Nat.le_max_right pageSize.toNat 1, orderly.word⟩
  | fitTo totalItems =>
      exact ⟨inRange_goTo _ pager.pageIndex, orderly.sized, totalItems.toNat_lt⟩

theorem after (steps : List Step) : (pager.after steps).Orderly := by
  induction steps generalizing pager with
  | nil => exact orderly
  | cons step rest later => exact later (orderly.step step)

/-! ## One page on, one page back -/

theorem forward_eq :
    pager.forward =
      if pager.window.hasNext then { pager with pageIndex := pager.pageIndex + 1 } else pager := by
  obtain ⟨first, last⟩ := orderly.inRange
  rw [forward, goTo_eq, PageWindow.hasNext, pageIndex_window orderly.inRange]
  by_cases next : pager.pageIndex < pager.window.totalPages
  · rw [clampNat_of_bounds (by omega) (by omega), if_pos (decide_eq_true next)]
  · have same : max pager.window.totalPages 1 = pager.pageIndex := by omega
    rw [same, clampNat_of_high_le first (Nat.le_add_right _ 1), decide_eq_false next,
      if_neg Bool.false_ne_true]

theorem back_eq :
    pager.back =
      if pager.window.hasPrevious then { pager with pageIndex := pager.pageIndex - 1 }
      else pager := by
  obtain ⟨first, last⟩ := orderly.inRange
  rw [back, goTo_eq, PageWindow.hasPrevious, pageIndex_window orderly.inRange]
  by_cases previous : 1 < pager.pageIndex
  · rw [clampNat_of_bounds (by omega) (by omega), if_pos (decide_eq_true previous)]
  · have same : pager.pageIndex = 1 := by omega
    rw [clampNat_of_le_low (by omega) (Nat.le_max_right _ 1), decide_eq_false previous,
      if_neg Bool.false_ne_true, ← same]

theorem back_forward (next : pager.window.hasNext = true) : pager.forward.back = pager := by
  have ahead : pager.forward = { pager with pageIndex := pager.pageIndex + 1 } := by
    rw [orderly.forward_eq, if_pos next]
  have orderlyAhead : pager.forward.Orderly := orderly.goTo _
  have previous : pager.forward.window.hasPrevious = true := by
    rw [PageWindow.hasPrevious, pageIndex_window orderlyAhead.inRange, ahead, decide_eq_true_iff]
    exact Nat.lt_succ_of_le orderly.inRange.1
  rw [orderlyAhead.back_eq, if_pos previous, ahead]
  rfl

/-- The page after the largest word is cut off before it is clamped, to the same effect. -/
theorem forward_eq_saturated :
    pager.forward = pager.goTo (min (pager.pageIndex + 1) (wordSize - 1)) := by
  have pages : pager.window.totalPages ≤ pager.totalItems :=
    (PageWindow.consistent_of pager.pageIndex pager.pageSize pager.totalItems).totalPages_le
  have lastWord : max pager.window.totalPages 1 < wordSize :=
    Nat.max_lt.mpr ⟨Nat.lt_of_le_of_lt pages orderly.word, by decide⟩
  have first : 1 ≤ max pager.window.totalPages 1 := Nat.le_max_right _ 1
  rw [forward, goTo_eq, goTo_eq]
  by_cases small : pager.pageIndex + 1 < wordSize
  · rw [Nat.min_eq_left (by omega)]
  · rw [clampNat_of_high_le first (by omega), clampNat_of_high_le first (by omega)]

/-! ## Another number of items -/

theorem fitTo_eq (totalItems : Nat) :
    pager.fitTo totalItems =
      { pager with
        pageIndex := min pager.pageIndex (max 1 (pagesFor pager.pageSize totalItems))
        totalItems } := by
  have sized : max pager.pageSize 1 = pager.pageSize := Nat.max_eq_left orderly.sized
  have first := orderly.inRange.1
  change (⟨clampNat pager.pageIndex 1 (max (pagesFor (max pager.pageSize 1) totalItems) 1),
    pager.pageSize, totalItems⟩ : Pager) = _
  rw [sized, Nat.max_comm, clampNat_eq_min first]

end Orderly

/-- Whatever a pager is asked, the page it keeps is the page it shows and one of the pages there are.  Going
on and back moves it by one page where there is one, and leaves it alone elsewhere; going on and then back
undoes itself.  Another number of items moves it back no further than to the last page, and no number
after that moves it on again. -/
theorem pager_stays_on_its_page (size : UInt64) (steps : List Step) :
    let pager := (ofSize size.toNat).after steps
    pager.window.pageIndex = pager.pageIndex ∧
      1 ≤ pager.pageIndex ∧ pager.pageIndex ≤ max 1 pager.window.totalPages ∧
      1 ≤ pager.pageSize ∧
      pager.step .forward =
        (if pager.window.hasNext then { pager with pageIndex := pager.pageIndex + 1 }
          else pager) ∧
      pager.step .back =
        (if pager.window.hasPrevious then { pager with pageIndex := pager.pageIndex - 1 }
          else pager) ∧
      (pager.window.hasNext → (pager.step .forward).step .back = pager) ∧
      pager.step .forward = pager.goTo (min (pager.pageIndex + 1) (wordSize - 1)) ∧
      ∀ totalItems : UInt64,
        let fitted := pager.step (.fitTo totalItems)
        fitted.pageSize = pager.pageSize ∧ fitted.totalItems = totalItems.toNat ∧
          fitted.pageIndex =
            min pager.pageIndex (max 1 (pagesFor pager.pageSize totalItems.toNat)) ∧
          ∀ later, (fitted.step (.fitTo later)).pageIndex ≤ fitted.pageIndex := by
  intro pager
  have orderly : pager.Orderly := (orderly_ofSize size.toNat).after steps
  refine ⟨pageIndex_window orderly.inRange, orderly.inRange.1, orderly.inRange.2, orderly.sized,
    orderly.forward_eq, orderly.back_eq, orderly.back_forward, orderly.forward_eq_saturated, ?_⟩
  intro totalItems fitted
  have fit : fitted = _ := orderly.fitTo_eq totalItems.toNat
  have orderlyFitted : fitted.Orderly := orderly.step (.fitTo totalItems)
  refine ⟨rfl, rfl, congrArg pageIndex fit, ?_⟩
  intro later
  have fitAgain : fitted.step (.fitTo later) = _ := orderlyFitted.fitTo_eq later.toNat
  rw [fitAgain]
  exact Nat.min_le_left _ _

/-- From the sixth of seven pages on and back again, and then to the last of three. -/
theorem pager_stays_on_sixth_page :
    let pager := (ofSize (10 : UInt64).toNat).after [.fitTo 65, .goTo 9, .back]
    let fitted := pager.step (.fitTo 25)
    pager.window.hasNext = true ∧ pager.window.pageIndex = 6 ∧
      (pager.step .forward).step .back = pager ∧ fitted.pageIndex = 3 ∧
      (fitted.step (.fitTo 65)).pageIndex ≤ 3 := by
  intro pager fitted
  obtain ⟨stays, -, -, -, -, -, undone, -, fits⟩ :=
    pager_stays_on_its_page 10 [.fitTo 65, .goTo 9, .back]
  obtain ⟨-, -, -, later⟩ := fits 25
  have next : pager.window.hasNext = true := by decide
  have third : fitted.pageIndex = 3 := by decide
  exact ⟨next, stays.trans (by decide), undone next, third, third ▸ later 65⟩

end Pager

end AdaptiveView
