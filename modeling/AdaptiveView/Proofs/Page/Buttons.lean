import AdaptiveView.Proofs.Page.Window
import Mathlib.Data.List.Nodup

/-!
# Rows of page buttons

A row of buttons is a run of page numbers around the page it is for.  Half of the buttons stand before
that page, unless the run would then leave the pages there are; it is moved back among them, and where
there are fewer pages than buttons it is all pages.  The page itself is never moved out of it.

For fewer pages than the largest word, the row can be worked out in words.
-/

set_option autoImplicit false

namespace AdaptiveView

namespace PageWindow

theorem countP_lt_range' {start page count : Nat} (after : start ≤ page)
    (within : page ≤ start + count) :
    (List.range' start count).countP (fun number => decide (number < page)) = page - start := by
  obtain ⟨before, rfl⟩ := Nat.exists_eq_add_of_le after
  obtain ⟨rest, rfl⟩ := Nat.exists_eq_add_of_le (Nat.le_of_add_le_add_left within)
  have early : (List.range' start before).countP (fun number => decide (number < start + before)) =
      (List.range' start before).length := by
    rw [List.countP_eq_length]
    intro number among
    rw [List.mem_range'_1] at among
    exact decide_eq_true among.2
  have late : (List.range' (start + before) rest).countP
      (fun number => decide (number < start + before)) = 0 := by
    rw [List.countP_eq_zero]
    intro number among
    rw [List.mem_range'_1] at among
    simp only [decide_eq_true_eq]
    omega
  rw [← List.range'_append_1, List.countP_append, early, late, List.length_range']
  omega

/-- A row of buttons is a run of page numbers, as many as are asked for or as there are.  Its page is in
it once, and half of the buttons stand before that page unless the row begins with the first page or ends
with the last one.  The row can be worked out in words. -/
theorem buttons_surround_page (pageIndex pageSize maxButtons : Nat) {totalItems : Nat}
    (short : totalItems + 1 < wordSize) :
    let window := PageWindow.of pageIndex pageSize totalItems
    let buttons := window.buttons maxButtons
    ∃ first last,
      buttons = List.range' first (last + 1 - first) ∧
        buttons.length = min maxButtons window.totalPages ∧
        (∀ number ∈ buttons, 1 ≤ number ∧ number ≤ window.totalPages) ∧
        (0 < maxButtons → 0 < window.totalPages → buttons.count window.pageIndex = 1) ∧
        (first = 1 ∨ last = window.totalPages ∨
          buttons.countP (fun number => decide (number < window.pageIndex)) =
            maxButtons / 2) ∧
        window.buttonsBy .words maxButtons = .ok buttons := by
  intro window buttons
  have consistent : window.Consistent := consistent_of pageIndex pageSize totalItems
  have pages : window.totalPages ≤ totalItems := consistent.totalPages_le
  have run : buttons =
      List.range' (window.rowStart maxButtons) (min maxButtons window.totalPages) :=
    window.buttons_eq_range' maxButtons
  have pos := window.rowStart_pos maxButtons
  have le := window.rowStart_le maxButtons
  have cases := window.rowStart_cases maxButtons
  have last := consistent.last
  refine ⟨window.rowStart maxButtons,
    window.rowStart maxButtons + min maxButtons window.totalPages - 1, ?_, ?_, ?_, ?_, ?_, ?_⟩
  · rw [run]
    congr 1
    omega
  · rw [run, List.length_range']
  · intro number among
    rw [run, List.mem_range'_1] at among
    omega
  · intro shown filled
    have inside : window.pageIndex ∈ buttons := by
      rw [run, List.mem_range'_1]
      exact consistent.pageIndex_in_row shown filled
    have distinct : buttons.Nodup := run ▸ List.nodup_range'
    exact List.nodup_iff_count_eq_one.mp distinct window.pageIndex inside
  · rcases cases with begins | ends | unmoved
    · exact .inl begins
    · by_cases few : window.totalPages < maxButtons
      · exact .inl (rowStart_of_totalPages_le (Nat.le_of_lt few))
      · exact .inr (.inl (by omega))
    · refine .inr (.inr ?_)
      rw [run, countP_lt_range' (by omega) (by omega)]
      omega
  · have word : window.totalItems < wordSize := Nat.lt_of_succ_lt short
    rw [consistent.buttonsBy_words word, if_neg (not_rowEndsAtLargest (by omega) maxButtons)]

/-- Of seven pages the fourth has two buttons on each side, and the sixth has the last five pages. -/
theorem buttons_surround_page_of_seven :
    let fourth := (PageWindow.of 4 10 65).buttons 5
    let sixth := (PageWindow.of 6 10 65).buttons 5
    65 + 1 < wordSize ∧ fourth = [2, 3, 4, 5, 6] ∧ sixth = [3, 4, 5, 6, 7] ∧
      fourth.length = min 5 7 ∧ (∀ number ∈ fourth, 1 ≤ number ∧ number ≤ 7) ∧
      fourth.count 4 = 1 ∧ sixth.count 6 = 1 ∧
      (PageWindow.of 6 10 65).buttonsBy .words 5 = .ok sixth := by
  intro fourth sixth
  have short : 65 + 1 < wordSize := by decide
  obtain ⟨-, -, -, length, among, once, -, -⟩ := buttons_surround_page 4 10 5 short
  obtain ⟨-, -, -, -, -, onceToo, -, inWords⟩ := buttons_surround_page 6 10 5 short
  exact ⟨short, by decide, by decide, length, among, once (by decide) (by decide),
    onceToo (by decide) (by decide), inWords⟩

end PageWindow

end AdaptiveView
