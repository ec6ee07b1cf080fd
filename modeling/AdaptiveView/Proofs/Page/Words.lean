import AdaptiveView.Proofs.Page.Window

/-!
# Pages in machine words

Whatever words are given for a page, a page size, a number of items and a number of buttons: either all
there is to know of the page can be worked out in words and is what it is in numbers, or one of two sums
is no word.  The page would end beyond the words if it were full, or its row of buttons ends at the
largest one.
-/

set_option autoImplicit false

namespace AdaptiveView

/-- All there is to know of a page. -/
structure PageFigures where
  window : PageWindow
  span : Nat × Nat
  shown? : Option (Nat × Nat)
  buttons : List Nat
  deriving DecidableEq

/-- A page that is asked for, and the number of buttons for it. -/
structure PageRequest where
  pageIndex : UInt64
  pageSize : UInt64
  totalItems : UInt64
  maxButtons : UInt64

namespace PageRequest

def figuresBy {m : Type → Type} [Monad m] (arithmetic : Arithmetic m) (request : PageRequest) :
    m PageFigures := do
  let window ← PageWindow.ofBy arithmetic request.pageIndex.toNat request.pageSize.toNat
    request.totalItems.toNat
  let span ← window.spanBy arithmetic
  let shown ← window.shownBy arithmetic
  let buttons ← window.buttonsBy arithmetic request.maxButtons.toNat
  return ⟨window, span, shown, buttons⟩

def figures (request : PageRequest) : PageFigures :=
  request.figuresBy .numbers

def window (request : PageRequest) : PageWindow :=
  .of request.pageIndex.toNat request.pageSize.toNat request.totalItems.toNat

/-- Both sums that are made before anything is clamped are words. -/
def Fits (request : PageRequest) : Prop :=
  request.window.EndIsWord ∧ ¬ request.window.RowEndsAtLargest request.maxButtons.toNat

instance (request : PageRequest) : Decidable request.Fits :=
  inferInstanceAs (Decidable (_ ∧ _))

theorem consistent (request : PageRequest) : request.window.Consistent :=
  PageWindow.consistent_of _ _ _

theorem totalItems_lt (request : PageRequest) : request.window.totalItems < wordSize :=
  request.totalItems.toNat_lt

/-- Either every number is a word, or one of the two sums is none. -/
theorem figuresBy_words (request : PageRequest) :
    request.figuresBy .words =
      if request.Fits then .ok request.figures else .error .overflow := by
  have consistent := request.consistent
  have word := request.totalItems_lt
  have made : PageWindow.ofBy .words request.pageIndex.toNat request.pageSize.toNat
      request.totalItems.toNat = pure request.window := PageWindow.ofBy_words word _ _
  unfold figuresBy
  rw [made, pure_bind]
  change (request.window.spanBy .words >>= fun span => request.window.shownBy .words >>= fun shown =>
    request.window.buttonsBy .words request.maxButtons.toNat >>= fun buttons =>
      pure (PageFigures.mk request.window span shown buttons)) = _
  rw [consistent.spanBy_words word, consistent.shownBy_words word,
    consistent.buttonsBy_words word]
  by_cases ends : request.window.EndIsWord
  · by_cases largest : request.window.RowEndsAtLargest request.maxButtons.toNat
    · rw [if_pos ends, if_pos ends, if_pos largest, if_neg fun fits => fits.2 largest]
      rfl
    · rw [if_pos ends, if_pos ends, if_neg largest, if_pos ⟨ends, largest⟩]
      rfl
  · have exceeds : ¬ request.Fits := fun fits => ends fits.1
    rw [if_neg ends, if_neg ends, if_neg exceeds]
    rfl

/-- What can be worked out of a page in words is what it is in numbers, with the bounds in order.  It can
be worked out exactly if the page would end at a word when full and its row of buttons does not end at the
largest word, and fails otherwise; the bounds by themselves need the first only. -/
theorem page_arithmetic_fits_iff (request : PageRequest) :
    let result := request.figuresBy .words
    (∀ figures, result = .ok figures → figures = request.figures) ∧
      ((∃ figures, result = .ok figures ∧ figures.span.1 ≤ figures.span.2 ∧
          figures.span.2 ≤ request.totalItems.toNat) ↔
        request.window.EndIsWord ∧
          ¬ request.window.RowEndsAtLargest request.maxButtons.toNat) ∧
      ((∀ figures, result ≠ .ok figures) ↔ result = .error .overflow) ∧
      ((∃ span, request.window.spanBy .words = .ok span) ↔ request.window.EndIsWord) := by
  intro result
  have worked : result = if request.Fits then .ok request.figures else .error .overflow :=
    request.figuresBy_words
  have span : request.window.spanBy .words =
      if request.window.EndIsWord then .ok request.window.span else .error .overflow :=
    request.consistent.spanBy_words request.totalItems_lt
  by_cases fits : request.Fits
  · rw [if_pos fits] at worked
    rw [span, if_pos fits.1, worked]
    refine ⟨?_, ?_, ?_, ?_⟩
    · intro figures same
      exact (Except.ok.inj same).symm
    · exact ⟨fun _ => fits, fun _ => ⟨_, rfl, request.consistent.span_ordered⟩⟩
    · constructor
      · exact fun none => absurd rfl (none request.figures)
      · exact nofun
    · exact ⟨fun _ => fits.1, fun _ => ⟨_, rfl⟩⟩
  · rw [if_neg fits] at worked
    rw [span, worked]
    refine ⟨nofun, ?_, ⟨fun _ => rfl, fun _ => nofun⟩, ?_⟩
    · constructor
      · rintro ⟨figures, same, -⟩
        cases same
      · exact fun both => absurd both fits
    · split
      case isTrue ends => exact ⟨fun _ => ends, fun _ => ⟨_, rfl⟩⟩
      case isFalse exceeds =>
        constructor
        · rintro ⟨span, same⟩
          cases same
        · exact fun ends => absurd ends exceeds

/-- Half of all words to a page leave one item for the second page, of which even the bounds fail, though
they are words.  Where the last page has the largest word for its number, its buttons fail. -/
theorem last_pages_pass_largest_word :
    let half : PageRequest := ⟨2, 0x8000000000000000, 0x8000000000000001, 5⟩
    let largest : PageRequest := ⟨0xFFFFFFFFFFFFFFFF, 1, 0xFFFFFFFFFFFFFFFF, 5⟩
    half.figuresBy .words = .error .overflow ∧
      half.window.spanBy .words = .error .overflow ∧
      half.figures = ⟨half.window, (0x8000000000000000, 0x8000000000000001),
        some (0x8000000000000001, 0x8000000000000001), [1, 2]⟩ ∧
      largest.figuresBy .words = .error .overflow ∧
      largest.window.spanBy .words = .ok (0xFFFFFFFFFFFFFFFE, 0xFFFFFFFFFFFFFFFF) := by
  intro half largest
  have halfEnds : ¬ half.window.EndIsWord := by decide +kernel
  have largestEnds : largest.window.EndIsWord := by decide +kernel
  have span : largest.window.span = (0xFFFFFFFFFFFFFFFE, 0xFFFFFFFFFFFFFFFF) := by
    decide +kernel
  refine ⟨?_, ?_, by decide +kernel, ?_, ?_⟩
  · rw [half.figuresBy_words]
    exact if_neg fun fits => halfEnds fits.1
  · rw [half.consistent.spanBy_words half.totalItems_lt]
    exact if_neg halfEnds
  · rw [largest.figuresBy_words]
    exact if_neg (by decide +kernel)
  · rw [largest.consistent.spanBy_words largest.totalItems_lt, if_pos largestEnds, span]

end PageRequest

end AdaptiveView
