/-!
# Pages

A window is one page of a collection, counted from 1; a pager remembers the page of a screen.  Page
numbers and positions are machine words of 64 bits, and a computation fails with a sum, a difference or
a product that is no such word.

What there is to know of a page is worked out in words where any numbers may be asked about.  A screen
works out its page in numbers: its collection is a list in memory, and no list there is long enough to
make the computation fail.
-/

set_option autoImplicit false

namespace AdaptiveView

def wordSize : Nat := 0x10000000000000000

/-- Why a computation in machine words fails. -/
inductive WordError where
  | overflow
  deriving DecidableEq, Repr

/-- What sums, differences and products come to. -/
structure Arithmetic (m : Type → Type) where
  sum : Nat → Nat → m Nat
  difference : Nat → Nat → m Nat
  product : Nat → Nat → m Nat

namespace Arithmetic

def numbers : Arithmetic Id where
  sum a b := a + b
  difference a b := a - b
  product a b := a * b

def word (n : Nat) : Except WordError Nat :=
  if n < wordSize then .ok n else .error .overflow

/-- The arithmetic that has nothing beyond the words. -/
def words : Arithmetic (Except WordError) where
  sum a b := word (a + b)
  difference a b := if b ≤ a then .ok (a - b) else .error .overflow
  product a b := word (a * b)

end Arithmetic

/-- The nearest number from `low` to `high`. -/
def clampNat (n low high : Nat) : Nat :=
  if n < low then low else if high < n then high else n

structure PageWindow where
  pageIndex : Nat
  pageSize : Nat
  totalItems : Nat
  totalPages : Nat
  deriving DecidableEq

section
variable {m : Type → Type} [Monad m] (arithmetic : Arithmetic m)

/-- The number of pages that hold so many items. -/
def pagesForBy (pageSize totalItems : Nat) : m Nat :=
  if totalItems % pageSize = 0 then pure (totalItems / pageSize)
  else arithmetic.sum (totalItems / pageSize) 1

namespace PageWindow

/-- The page nearest to the one asked for; a page size of zero counts as one. -/
def ofBy (pageIndex pageSize totalItems : Nat) : m PageWindow := do
  let pageSize := max pageSize 1
  let totalPages ← pagesForBy arithmetic pageSize totalItems
  return ⟨clampNat pageIndex 1 (max totalPages 1), pageSize, totalItems, totalPages⟩

/-- The positions of the items of the page, the second one exclusive. -/
def spanBy (window : PageWindow) : m (Nat × Nat) := do
  let before ← arithmetic.difference window.pageIndex 1
  let begins ← arithmetic.product before window.pageSize
  let first := min begins window.totalItems
  let ends ← arithmetic.sum first window.pageSize
  return (first, min ends window.totalItems)

/-- The first and last item counted from 1, unless the page is empty.  The number of the first one is
worked out whether or not there is one. -/
def shownBy (window : PageWindow) : m (Option (Nat × Nat)) := do
  let (first, last) ← window.spanBy arithmetic
  let number ← arithmetic.sum first 1
  return if first < last then some (number, last) else none

def sliceBy {α : Type} (window : PageWindow) (items : List α) : m (List α) := do
  let (first, last) ← window.spanBy arithmetic
  return (items.drop first).take (last - first)

/-- At most `maxButtons` page numbers around the page, moved to stay among the pages. -/
def buttonsBy (window : PageWindow) (maxButtons : Nat) : m (List Nat) :=
  if window.totalPages = 0 ∨ maxButtons = 0 then pure []
  else if window.totalPages ≤ maxButtons then pure (List.range' 1 window.totalPages)
  else do
    let others ← arithmetic.difference window.totalPages maxButtons
    let latest ← arithmetic.sum others 1
    let first := clampNat (window.pageIndex - maxButtons / 2) 1 latest
    let next ← arithmetic.sum first maxButtons
    return List.range' first (next - first)

end PageWindow

/-- A page of a list with the window it is cut out by. -/
def pageOfBy {α : Type} (items : List α) (pageIndex pageSize : Nat) : m (PageWindow × List α) := do
  let window ← PageWindow.ofBy arithmetic pageIndex pageSize items.length
  let page ← window.sliceBy arithmetic items
  return (window, page)

end

/-! ## In numbers -/

def pagesFor (pageSize totalItems : Nat) : Nat :=
  pagesForBy .numbers pageSize totalItems

namespace PageWindow

def of (pageIndex pageSize totalItems : Nat) : PageWindow :=
  ofBy .numbers pageIndex pageSize totalItems

def span (window : PageWindow) : Nat × Nat :=
  window.spanBy .numbers

def shown? (window : PageWindow) : Option (Nat × Nat) :=
  window.shownBy .numbers

def slice {α : Type} (window : PageWindow) (items : List α) : List α :=
  window.sliceBy .numbers items

def buttons (window : PageWindow) (maxButtons : Nat) : List Nat :=
  window.buttonsBy .numbers maxButtons

def hasNext (window : PageWindow) : Bool :=
  window.pageIndex < window.totalPages

def hasPrevious (window : PageWindow) : Bool :=
  1 < window.pageIndex

end PageWindow

def pageOf {α : Type} (items : List α) (pageIndex pageSize : Nat) : PageWindow × List α :=
  pageOfBy .numbers items pageIndex pageSize

/-! ## Pagers -/

structure Pager where
  pageIndex : Nat
  pageSize : Nat
  totalItems : Nat
  deriving DecidableEq

namespace Pager

def standardPageSize : Nat := 20

def ofSize (pageSize : Nat) : Pager :=
  ⟨1, max pageSize 1, 0⟩

def window (pager : Pager) : PageWindow :=
  .of pager.pageIndex pager.pageSize pager.totalItems

/-- Goes to the nearest page that exists. -/
def goTo (pager : Pager) (pageIndex : Nat) : Pager :=
  let moved := { pager with pageIndex }
  { moved with pageIndex := moved.window.pageIndex }

def forward (pager : Pager) : Pager :=
  pager.goTo (pager.pageIndex + 1)

def back (pager : Pager) : Pager :=
  pager.goTo (pager.pageIndex - 1)

/-- Another page size goes back to the first page. -/
def withSize (pager : Pager) (pageSize : Nat) : Pager :=
  { pager with pageSize := max pageSize 1, pageIndex := 1 }

/-- Another number of items pulls the page back among the pages there are. -/
def fitTo (pager : Pager) (totalItems : Nat) : Pager :=
  { pager with totalItems }.goTo pager.pageIndex

end Pager

theorem clampNat_bounds {n low high : Nat} (h : low ≤ high) :
    low ≤ clampNat n low high ∧ clampNat n low high ≤ high := by
  unfold clampNat
  split
  · omega
  · split <;> omega

theorem clampNat_of_bounds {n low high : Nat} (above : low ≤ n) (below : n ≤ high) :
    clampNat n low high = n := by
  rw [clampNat, if_neg (Nat.not_lt.mpr above), if_neg (Nat.not_lt.mpr below)]

theorem clampNat_of_le_low {n low high : Nat} (below : n ≤ low) (h : low ≤ high) :
    clampNat n low high = low := by
  unfold clampNat
  split
  · rfl
  · split <;> omega

theorem clampNat_of_high_le {n low high : Nat} (h : low ≤ high) (above : high ≤ n) :
    clampNat n low high = high := by
  unfold clampNat
  split
  · omega
  · split <;> omega

theorem clampNat_eq_min {n low high : Nat} (above : low ≤ n) :
    clampNat n low high = min n high := by
  unfold clampNat
  split
  · omega
  · split <;> omega

theorem pagesFor_eq (pageSize totalItems : Nat) :
    pagesFor pageSize totalItems =
      if totalItems % pageSize = 0 then totalItems / pageSize else totalItems / pageSize + 1 :=
  rfl

theorem PageWindow.of_eq (pageIndex pageSize totalItems : Nat) :
    PageWindow.of pageIndex pageSize totalItems =
      ⟨clampNat pageIndex 1 (max (pagesFor (max pageSize 1) totalItems) 1), max pageSize 1,
        totalItems, pagesFor (max pageSize 1) totalItems⟩ :=
  rfl

theorem PageWindow.shown?_eq (window : PageWindow) :
    window.shown? =
      if window.span.1 < window.span.2 then some (window.span.1 + 1, window.span.2) else none :=
  rfl

theorem PageWindow.slice_eq {α : Type} (window : PageWindow) (items : List α) :
    window.slice items = (items.drop window.span.1).take (window.span.2 - window.span.1) :=
  rfl

theorem PageWindow.pageIndex_of_pos (pageIndex pageSize totalItems : Nat) :
    1 ≤ (PageWindow.of pageIndex pageSize totalItems).pageIndex :=
  (clampNat_bounds (Nat.le_max_right _ 1)).1

theorem PageWindow.pageIndex_of_le (pageIndex pageSize totalItems : Nat) :
    (PageWindow.of pageIndex pageSize totalItems).pageIndex ≤
      max (PageWindow.of pageIndex pageSize totalItems).totalPages 1 :=
  (clampNat_bounds (Nat.le_max_right _ 1)).2

namespace Pager

/-- The stored page is one of the pages there are. -/
def InRange (pager : Pager) : Prop :=
  1 ≤ pager.pageIndex ∧ pager.pageIndex ≤ max 1 pager.window.totalPages

theorem inRange_goTo (pager : Pager) (pageIndex : Nat) : (pager.goTo pageIndex).InRange := by
  have last := PageWindow.pageIndex_of_le pageIndex pager.pageSize pager.totalItems
  rw [Nat.max_comm] at last
  exact ⟨PageWindow.pageIndex_of_pos pageIndex pager.pageSize pager.totalItems, last⟩

theorem pageIndex_window {pager : Pager} (inRange : pager.InRange) :
    pager.window.pageIndex = pager.pageIndex := by
  obtain ⟨first, last⟩ := inRange
  rw [Nat.max_comm] at last
  exact clampNat_of_bounds first last

/-- Pages that do not exist are taken for the nearest one right away. -/
theorem window_goTo (pager : Pager) (pageIndex : Nat) :
    (pager.goTo pageIndex).window = .of pageIndex pager.pageSize pager.totalItems := by
  have stays := pageIndex_window (inRange_goTo pager pageIndex)
  unfold window at *
  rw [PageWindow.mk.injEq]
  exact ⟨stays, rfl, rfl, rfl⟩

end Pager

end AdaptiveView
