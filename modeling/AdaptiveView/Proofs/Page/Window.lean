import AdaptiveView.Page

/-!
# What a page is worked out from

A window that was made for a number of items is consistent: it has as many pages as hold them, and its
page is one of them.  Then its page begins among the items and its row of buttons among the pages, so of
all the sums, differences and products only two can pass the largest word: where the page would end if it
were full, and the number after the last button.  Clamping to the number of items and of pages comes
after these sums and does not keep them small.

Where the two are words, what is worked out in words is what is worked out in numbers.
-/

set_option autoImplicit false

namespace AdaptiveView

/-! ## Numbers of pages -/

theorem le_pagesFor_mul {pageSize : Nat} (positive : 0 < pageSize) (totalItems : Nat) :
    totalItems ≤ pagesFor pageSize totalItems * pageSize := by
  have parts := Nat.div_add_mod totalItems pageSize
  have rest := Nat.mod_lt totalItems positive
  rw [Nat.mul_comm] at parts
  rw [pagesFor_eq]
  split
  · omega
  · rw [Nat.add_mul, Nat.one_mul]
    omega

/-- Every page but the first begins inside the list. -/
theorem mul_lt_of_lt_pagesFor {pageSize totalItems page : Nat}
    (before : page < pagesFor pageSize totalItems) : page * pageSize < totalItems := by
  have parts := Nat.div_add_mod totalItems pageSize
  rw [Nat.mul_comm] at parts
  rw [pagesFor_eq] at before
  split at before
  case isTrue whole =>
    have steps : (page + 1) * pageSize ≤ totalItems / pageSize * pageSize :=
      Nat.mul_le_mul_right pageSize (by omega)
    rw [Nat.add_mul, Nat.one_mul] at steps
    rcases Nat.eq_zero_or_pos pageSize with zero | positive
    · subst zero
      simp at before
    · omega
  case isFalse part =>
    have steps : page * pageSize ≤ totalItems / pageSize * pageSize :=
      Nat.mul_le_mul_right pageSize (by omega)
    omega

/-- There are no more pages than items. -/
theorem pagesFor_le {pageSize : Nat} (positive : 0 < pageSize) (totalItems : Nat) :
    pagesFor pageSize totalItems ≤ totalItems := by
  apply Nat.le_of_not_lt
  intro more
  have inside : totalItems * pageSize < totalItems := mul_lt_of_lt_pagesFor more
  exact Nat.not_lt_of_le (Nat.le_mul_of_pos_right totalItems positive) inside

namespace PageWindow

/-! ## Consistent windows -/

/-- The page is one of the pages that hold the items, and the first one if there are none. -/
structure Consistent (window : PageWindow) : Prop where
  sized : 0 < window.pageSize
  counted : window.totalPages = pagesFor window.pageSize window.totalItems
  first : 1 ≤ window.pageIndex
  last : window.pageIndex ≤ max window.totalPages 1

theorem consistent_of (pageIndex pageSize totalItems : Nat) :
    (PageWindow.of pageIndex pageSize totalItems).Consistent where
  sized := Nat.le_max_right pageSize 1
  counted := rfl
  first := pageIndex_of_pos pageIndex pageSize totalItems
  last := pageIndex_of_le pageIndex pageSize totalItems

/-- Where the page begins. -/
def start (window : PageWindow) : Nat :=
  (window.pageIndex - 1) * window.pageSize

/-- The first number in a row of so many buttons. -/
def rowStart (window : PageWindow) (maxButtons : Nat) : Nat :=
  clampNat (window.pageIndex - maxButtons / 2) 1 (window.totalPages - maxButtons + 1)

section
variable {window : PageWindow} {maxButtons : Nat}

theorem rowStart_pos (window : PageWindow) (maxButtons : Nat) : 1 ≤ window.rowStart maxButtons :=
  (clampNat_bounds (Nat.le_add_left 1 _)).1

theorem rowStart_le (window : PageWindow) (maxButtons : Nat) :
    window.rowStart maxButtons ≤ window.totalPages - maxButtons + 1 :=
  (clampNat_bounds (Nat.le_add_left 1 _)).2

theorem rowStart_of_totalPages_le (few : window.totalPages ≤ maxButtons) :
    window.rowStart maxButtons = 1 := by
  have pos := window.rowStart_pos maxButtons
  have le := window.rowStart_le maxButtons
  omega

/-- Unless it was moved, half of the buttons stand before the page. -/
theorem rowStart_cases (window : PageWindow) (maxButtons : Nat) :
    window.rowStart maxButtons = 1 ∨
      window.rowStart maxButtons = window.totalPages - maxButtons + 1 ∨
      window.rowStart maxButtons + maxButtons / 2 = window.pageIndex := by
  unfold rowStart clampNat
  split
  · exact .inl rfl
  · split <;> omega

theorem buttons_eq_range' (window : PageWindow) (maxButtons : Nat) :
    window.buttons maxButtons =
      List.range' (window.rowStart maxButtons) (min maxButtons window.totalPages) := by
  unfold buttons buttonsBy
  split
  case isTrue none =>
    have empty : min maxButtons window.totalPages = 0 := by omega
    rw [empty, List.range'_zero]
    rfl
  case isFalse filled =>
    split
    case isTrue few =>
      rw [rowStart_of_totalPages_le few, Nat.min_eq_right few]
      rfl
    case isFalse many =>
      have run : List.range' (window.rowStart maxButtons)
          (window.rowStart maxButtons + maxButtons - window.rowStart maxButtons) =
            List.range' (window.rowStart maxButtons) (min maxButtons window.totalPages) := by
        rw [Nat.add_sub_cancel_left, Nat.min_eq_left (Nat.le_of_not_le many)]
      exact run

end

namespace Consistent

variable {window : PageWindow} (consistent : window.Consistent)
include consistent

theorem totalPages_le : window.totalPages ≤ window.totalItems := by
  rw [consistent.counted]
  exact pagesFor_le consistent.sized window.totalItems

theorem start_lt : window.start < max window.totalItems 1 := by
  have first := consistent.first
  have last := consistent.last
  by_cases later : window.pageIndex - 1 < window.totalPages
  · have inside : window.start < window.totalItems := by
      rw [consistent.counted] at later
      exact mul_lt_of_lt_pagesFor later
    omega
  · have firstPage : window.pageIndex - 1 = 0 := by omega
    rw [start, firstPage, Nat.zero_mul]
    omega

theorem start_le : min window.start window.totalItems = window.start := by
  have inside := consistent.start_lt
  omega

theorem start_add_pageSize :
    window.start + window.pageSize = window.pageIndex * window.pageSize := by
  obtain ⟨before, page⟩ := Nat.exists_eq_add_of_le' consistent.first
  rw [start, page, Nat.add_sub_cancel, Nat.add_mul, Nat.one_mul]

theorem span_eq :
    window.span =
      (window.start, min (window.pageIndex * window.pageSize) window.totalItems) := by
  have raw : window.span = (min window.start window.totalItems,
      min (min window.start window.totalItems + window.pageSize) window.totalItems) := rfl
  rw [raw, consistent.start_le, consistent.start_add_pageSize]

/-- The bounds of a page are in order. -/
theorem span_ordered :
    window.span.1 ≤ window.span.2 ∧ window.span.2 ≤ window.totalItems := by
  have inside := consistent.start_lt
  have full := consistent.start_add_pageSize
  rw [consistent.span_eq]
  omega

/-- The page itself is not moved out of its row. -/
theorem pageIndex_in_row {maxButtons : Nat} (shown : 0 < maxButtons)
    (filled : 0 < window.totalPages) :
    window.rowStart maxButtons ≤ window.pageIndex ∧
      window.pageIndex < window.rowStart maxButtons + min maxButtons window.totalPages := by
  have first := consistent.first
  have last := consistent.last
  unfold rowStart clampNat
  split
  · omega
  · split <;> omega

end Consistent

end PageWindow

/-! ## Machine words -/

namespace Arithmetic

theorem word_of_lt {n : Nat} (fits : n < wordSize) : word n = pure n :=
  if_pos fits

theorem word_of_le {n : Nat} (exceeds : wordSize ≤ n) : word n = .error .overflow :=
  if_neg (Nat.not_lt.mpr exceeds)

theorem difference_words {a b : Nat} (le : b ≤ a) : words.difference a b = pure (a - b) :=
  if_pos le

end Arithmetic

open Arithmetic

theorem pagesForBy_words {pageSize totalItems : Nat} (positive : 0 < pageSize)
    (word : totalItems < wordSize) :
    pagesForBy words pageSize totalItems = pure (pagesFor pageSize totalItems) := by
  have le := pagesFor_le positive totalItems
  rw [pagesFor_eq] at le ⊢
  unfold pagesForBy
  split
  case isTrue whole => rfl
  case isFalse part =>
    rw [if_neg part] at le
    exact word_of_lt (by omega)

namespace PageWindow

theorem ofBy_words {totalItems : Nat} (word : totalItems < wordSize) (pageIndex pageSize : Nat) :
    ofBy words pageIndex pageSize totalItems = pure (.of pageIndex pageSize totalItems) := by
  unfold ofBy
  dsimp only
  rw [pagesForBy_words (Nat.le_max_right pageSize 1) word, pure_bind]
  rfl

/-- The page would end at a word if it were full. -/
def EndIsWord (window : PageWindow) : Prop :=
  window.pageIndex * window.pageSize < wordSize

/-- There are more pages than buttons, and the last button is for the largest word. -/
def RowEndsAtLargest (window : PageWindow) (maxButtons : Nat) : Prop :=
  window.totalPages + 1 = wordSize ∧ maxButtons < window.totalPages ∧
    window.totalPages + maxButtons / 2 < window.pageIndex + maxButtons

instance (window : PageWindow) : Decidable window.EndIsWord :=
  inferInstanceAs (Decidable (_ < _))

instance (window : PageWindow) (maxButtons : Nat) :
    Decidable (window.RowEndsAtLargest maxButtons) :=
  inferInstanceAs (Decidable (_ ∧ _))

namespace Consistent

variable {window : PageWindow} (consistent : window.Consistent)
  (word : window.totalItems < wordSize)
include consistent word

/-- The sum for the end of a page is all that can fail in its bounds. -/
theorem spanBy_words :
    window.spanBy words = if window.EndIsWord then .ok window.span else .error .overflow := by
  have pages := consistent.totalPages_le
  have last := consistent.last
  have inside := consistent.start_lt
  have startWord : window.start < wordSize := by
    unfold wordSize at *
    omega
  have before : words.difference window.pageIndex 1 = pure (window.pageIndex - 1) :=
    difference_words consistent.first
  have begins : words.product (window.pageIndex - 1) window.pageSize = pure window.start :=
    word_of_lt startWord
  have ends : words.sum window.start window.pageSize =
      Arithmetic.word (window.pageIndex * window.pageSize) :=
    congrArg Arithmetic.word consistent.start_add_pageSize
  simp only [spanBy, before, begins, pure_bind, consistent.start_le, ends]
  by_cases fits : window.EndIsWord
  · rw [if_pos fits, word_of_lt fits, consistent.span_eq, pure_bind]
    rfl
  · rw [if_neg fits, word_of_le (Nat.not_lt.mp fits)]
    rfl

theorem shownBy_words :
    window.shownBy words = if window.EndIsWord then .ok window.shown? else .error .overflow := by
  have inside := consistent.start_lt
  have number : words.sum window.start 1 = pure (window.start + 1) := by
    apply word_of_lt
    unfold wordSize at *
    omega
  unfold shownBy
  rw [consistent.spanBy_words word]
  by_cases fits : window.EndIsWord
  · rw [if_pos fits, if_pos fits, shown?_eq, consistent.span_eq]
    change (words.sum window.start 1 >>= _) = _
    rw [number, pure_bind]
    rfl
  · rw [if_neg fits, if_neg fits]
    rfl

theorem sliceBy_words {α : Type} (items : List α) :
    window.sliceBy words items =
      if window.EndIsWord then .ok (window.slice items) else .error .overflow := by
  unfold sliceBy
  rw [consistent.spanBy_words word]
  split <;> rfl

/-- The sum for the number after the last button is all that can fail in a row of buttons. -/
theorem rowEnd_lt_iff {maxButtons : Nat} (many : maxButtons < window.totalPages) :
    window.rowStart maxButtons + maxButtons < wordSize ↔
      ¬ window.RowEndsAtLargest maxButtons := by
  have pages := consistent.totalPages_le
  have last := consistent.last
  have first := consistent.first
  unfold RowEndsAtLargest rowStart clampNat
  split
  · omega
  · split <;> omega

theorem buttonsBy_words (maxButtons : Nat) :
    window.buttonsBy words maxButtons =
      if window.RowEndsAtLargest maxButtons then .error .overflow
      else .ok (window.buttons maxButtons) := by
  have pages := consistent.totalPages_le
  have last := consistent.last
  unfold buttonsBy buttons buttonsBy
  split
  case isTrue none =>
    have inside : ¬ window.RowEndsAtLargest maxButtons := by
      unfold RowEndsAtLargest
      omega
    rw [if_neg inside]
    rfl
  case isFalse filled =>
    split
    case isTrue few =>
      have inside : ¬ window.RowEndsAtLargest maxButtons := by
        unfold RowEndsAtLargest
        omega
      rw [if_neg inside]
      rfl
    case isFalse many =>
      have lt : maxButtons < window.totalPages := Nat.lt_of_not_le many
      have others : words.difference window.totalPages maxButtons =
          pure (window.totalPages - maxButtons) := difference_words (Nat.le_of_lt lt)
      have latest : words.sum (window.totalPages - maxButtons) 1 =
          pure (window.totalPages - maxButtons + 1) := word_of_lt (by omega)
      simp only [others, latest, pure_bind]
      change (Arithmetic.word (window.rowStart maxButtons + maxButtons) >>= _) = _
      have fits := consistent.rowEnd_lt_iff word lt
      by_cases largest : window.RowEndsAtLargest maxButtons
      · rw [if_pos largest,
          word_of_le (Nat.not_lt.mp (mt fits.mp (not_not_intro largest)))]
        rfl
      · rw [if_neg largest, word_of_lt (fits.mpr largest)]
        rfl

end Consistent

end PageWindow

/-! ## Lists in memory -/

/-- Every list in memory is shorter than this, since distances in memory are signed words. -/
def lengthLimit : Nat := wordSize / 2

namespace PageWindow

/-- A second page begins inside the list, which keeps the sum for its end below the largest word. -/
theorem Consistent.endIsWord {window : PageWindow} (consistent : window.Consistent)
    (sizeWord : window.pageSize < wordSize) (short : window.totalItems < lengthLimit) :
    window.EndIsWord := by
  have inside := consistent.start_lt
  have first := consistent.first
  have full := consistent.start_add_pageSize
  unfold EndIsWord
  rw [← full]
  rcases Nat.eq_or_lt_of_le first with firstPage | later
  · have begins : window.start = 0 := by
      rw [start, ← firstPage, Nat.sub_self, Nat.zero_mul]
    omega
  · have onePage : 1 * window.pageSize ≤ window.start :=
      Nat.mul_le_mul_right window.pageSize (by omega)
    unfold lengthLimit wordSize at *
    omega

theorem not_rowEndsAtLargest {window : PageWindow} (short : window.totalPages + 1 < wordSize)
    (maxButtons : Nat) : ¬ window.RowEndsAtLargest maxButtons :=
  fun largest => Nat.ne_of_lt short largest.1

end PageWindow

end AdaptiveView
