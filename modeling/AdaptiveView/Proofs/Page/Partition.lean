import AdaptiveView.Proofs.Page.Window

/-!
# Pages cut a list into pieces

One after the other, the pages of a list hold each of its items once and in order.  For page sizes that
are words and lists that fit into half of the address space, each page can be worked out in words.
-/

set_option autoImplicit false

namespace AdaptiveView

namespace PageWindow

section
variable {pageSize totalItems page : Nat}

theorem pageIndex_of_lt (before : page < pagesFor (max pageSize 1) totalItems) :
    (PageWindow.of (page + 1) pageSize totalItems).pageIndex = page + 1 :=
  clampNat_of_bounds (Nat.le_add_left 1 page) (Nat.le_trans before (Nat.le_max_left _ _))

theorem span_of_lt (before : page < pagesFor (max pageSize 1) totalItems) :
    (PageWindow.of (page + 1) pageSize totalItems).span =
      (page * max pageSize 1, min (page * max pageSize 1 + max pageSize 1) totalItems) := by
  have consistent := consistent_of (page + 1) pageSize totalItems
  rw [consistent.span_eq, ← consistent.start_add_pageSize, start, pageIndex_of_lt before,
    Nat.add_sub_cancel]
  rfl

theorem slice_of_lt {α : Type} {items : List α}
    (before : page < pagesFor (max pageSize 1) items.length) :
    (PageWindow.of (page + 1) pageSize items.length).slice items =
      (items.drop (page * max pageSize 1)).take (max pageSize 1) := by
  have inside := mul_lt_of_lt_pagesFor before
  rw [slice_eq, span_of_lt before]
  dsimp only
  rcases Nat.le_total (page * max pageSize 1 + max pageSize 1) items.length with full | short
  · rw [Nat.min_eq_left full, Nat.add_sub_cancel_left]
  · have rest : (items.drop (page * max pageSize 1)).length =
        items.length - page * max pageSize 1 := List.length_drop
    have lastPage : (items.drop (page * max pageSize 1)).length ≤ max pageSize 1 := by omega
    rw [Nat.min_eq_right short, List.take_of_length_le (Nat.le_of_eq rest),
      List.take_of_length_le lastPage]

end

/-- The first pages hold the first items. -/
theorem flatMap_pieces {α : Type} (items : List α) (size pages : Nat) :
    (List.range pages).flatMap (fun page => (items.drop (page * size)).take size) =
      items.take (pages * size) := by
  induction pages with
  | zero => simp
  | succ pages before =>
      rw [List.range_succ, List.flatMap_append, before, List.flatMap_singleton, Nat.add_mul,
        Nat.one_mul, List.take_add]

/-- All pages hold all items. -/
theorem flatMap_slice {α : Type} (items : List α) (pageSize : Nat) :
    (List.range' 1 (pagesFor (max pageSize 1) items.length)).flatMap
        (fun page => (PageWindow.of page pageSize items.length).slice items) =
      items := by
  have covers := le_pagesFor_mul (Nat.le_max_right pageSize 1) items.length
  have pieces : ∀ page ∈ List.range (pagesFor (max pageSize 1) items.length),
      (PageWindow.of (1 + page) pageSize items.length).slice items =
        (items.drop (page * max pageSize 1)).take (max pageSize 1) := by
    intro page inRange
    rw [Nat.add_comm]
    exact slice_of_lt (List.mem_range.mp inRange)
  rw [List.range'_eq_map_range, List.flatMap_map, List.flatMap_def, List.map_congr_left pieces,
    ← List.flatMap_def, flatMap_pieces]
  exact List.take_of_length_le covers

/-! ## One page -/

section
variable {pageSize totalItems page : Nat}

theorem shown?_of_lt (before : page < pagesFor (max pageSize 1) totalItems) :
    (PageWindow.of (page + 1) pageSize totalItems).shown? =
      some (page * max pageSize 1 + 1,
        min (page * max pageSize 1 + max pageSize 1) totalItems) := by
  have inside := mul_lt_of_lt_pagesFor before
  have filled : page * max pageSize 1 <
      min (page * max pageSize 1 + max pageSize 1) totalItems := by
    omega
  rw [shown?_eq, span_of_lt before]
  exact if_pos filled

theorem length_slice_of_lt {α : Type} {items : List α}
    (before : page < pagesFor (max pageSize 1) items.length) :
    ((PageWindow.of (page + 1) pageSize items.length).slice items).length =
      min (max pageSize 1) (items.length - page * max pageSize 1) := by
  rw [slice_of_lt before, List.length_take, List.length_drop]

theorem length_slice_of_succ_lt {α : Type} {items : List α}
    (before : page + 1 < pagesFor (max pageSize 1) items.length) :
    ((PageWindow.of (page + 1) pageSize items.length).slice items).length = max pageSize 1 := by
  have nextBegins := mul_lt_of_lt_pagesFor before
  rw [Nat.add_mul, Nat.one_mul] at nextBegins
  rw [length_slice_of_lt (Nat.lt_of_succ_lt before)]
  exact Nat.min_eq_left (by omega)

theorem length_slice_bounds {α : Type} {items : List α}
    (before : page < pagesFor (max pageSize 1) items.length) :
    let length := ((PageWindow.of (page + 1) pageSize items.length).slice items).length
    1 ≤ length ∧ length ≤ max pageSize 1 := by
  have inside := mul_lt_of_lt_pagesFor before
  rw [length_slice_of_lt before]
  constructor
  · exact Nat.le_min.mpr ⟨Nat.le_max_right _ 1, by omega⟩
  · exact Nat.min_le_left _ _

/-- A page number is taken for the nearest one there is. -/
theorem of_zero (pageSize totalItems : Nat) :
    PageWindow.of 0 pageSize totalItems = .of 1 pageSize totalItems := by
  have page : 1 ≤ max (pagesFor (max pageSize 1) totalItems) 1 := Nat.le_max_right _ 1
  simp only [of_eq, clampNat_of_le_low (Nat.zero_le 1) page,
    clampNat_of_bounds (Nat.le_refl 1) page]

theorem of_of_pagesFor_lt (beyond : pagesFor (max pageSize 1) totalItems < page) :
    PageWindow.of page pageSize totalItems =
      .of (max (pagesFor (max pageSize 1) totalItems) 1) pageSize totalItems := by
  have first : 1 ≤ max (pagesFor (max pageSize 1) totalItems) 1 := Nat.le_max_right _ 1
  have last : max (pagesFor (max pageSize 1) totalItems) 1 ≤ page := by omega
  simp only [of_eq, clampNat_of_high_le first last,
    clampNat_of_bounds first (Nat.le_refl _)]

end

end PageWindow

/-! ## All pages -/

/-- A page shows the items that stand in the list where it says they do, and the next page goes on from
there. -/
theorem placed_of_lt {α : Type} {items : List α} {pageSize page : Nat}
    (before : page < pagesFor (max pageSize 1) items.length) :
    let here := pageOf items (page + 1) pageSize
    ∃ first last, here.1.span = (first, last) ∧ here.1.shown? = some (first + 1, last) ∧
      here.2 = (items.drop first).take (last - first) ∧
      (page + 1 < pagesFor (max pageSize 1) items.length →
        ∃ next, (pageOf items (page + 2) pageSize).1.shown? = some (last + 1, next)) := by
  intro here
  have span := PageWindow.span_of_lt before
  refine ⟨_, _, span, PageWindow.shown?_of_lt before, ?_, ?_⟩
  · change (PageWindow.of (page + 1) pageSize items.length).slice items = _
    rw [PageWindow.slice_eq, span]
  · intro further
    have nextBegins := mul_lt_of_lt_pagesFor further
    rw [Nat.add_mul, Nat.one_mul] at nextBegins
    have full : min (page * max pageSize 1 + max pageSize 1) items.length =
        (page + 1) * max pageSize 1 := by
      rw [Nat.min_eq_left (Nat.le_of_lt nextBegins), Nat.add_mul, Nat.one_mul]
    rw [full]
    exact ⟨_, PageWindow.shown?_of_lt further⟩

theorem pageOfBy_words {α : Type} {items : List α} {pageSize : Nat} (index : Nat)
    (word : pageSize < wordSize) (fits : items.length < lengthLimit) :
    let page := pageOf items index pageSize
    pageOfBy .words items index pageSize = .ok page ∧
      page.1.spanBy .words = .ok page.1.span ∧ page.1.shownBy .words = .ok page.1.shown? := by
  intro page
  have consistent : page.1.Consistent := PageWindow.consistent_of index pageSize items.length
  have length : items.length < wordSize := Nat.lt_trans fits (by decide)
  have size : page.1.pageSize < wordSize := Nat.max_lt.mpr ⟨word, by decide⟩
  have ends : page.1.EndIsWord := consistent.endIsWord size fits
  refine ⟨?_, ?_, ?_⟩
  · have slice : page.1.sliceBy .words items = .ok page.2 := by
      rw [consistent.sliceBy_words length, if_pos ends]
      rfl
    rw [pageOfBy, PageWindow.ofBy_words length, pure_bind]
    exact congrArg (· >>= fun items => pure (page.1, items)) slice
  · rw [consistent.spanBy_words length, if_pos ends]
  · rw [consistent.shownBy_words length, if_pos ends]

/-- The pages of a list, in order, are the list.  All but the last are full and the last is not empty; a
page number that does not exist stands for the nearest one; and what a page says it shows is where its
items stand in the list, each page beginning where the one before it ends.  Each of them can be worked out
in words. -/
theorem pages_share_out_list {α : Type} (items : List α) {pageSize : Nat}
    (word : pageSize < wordSize) (fits : items.length < lengthLimit) :
    let size := max pageSize 1
    let page := fun index => pageOf items index pageSize
    let pages := (page 1).1.totalPages
    (List.range' 1 pages).flatMap (fun index => (page index).2) = items ∧
      (∀ index, 1 ≤ index → index < pages → (page index).2.length = size) ∧
      (0 < pages → 1 ≤ (page pages).2.length ∧ (page pages).2.length ≤ size) ∧
      page 0 = page 1 ∧
      (∀ index, pages < index → page index = page (max pages 1)) ∧
      (items = [] → ∀ index, (page index).2 = [] ∧ (page index).1.shown? = none) ∧
      (∀ index, 1 ≤ index → index ≤ pages →
        ∃ first last, (page index).1.span = (first, last) ∧
          (page index).1.shown? = some (first + 1, last) ∧
          (page index).2 = (items.drop first).take (last - first) ∧
          (index < pages → ∃ next, (page (index + 1)).1.shown? = some (last + 1, next))) ∧
      ∀ index, pageOfBy .words items index pageSize = .ok (page index) ∧
        (page index).1.spanBy .words = .ok (page index).1.span ∧
        (page index).1.shownBy .words = .ok (page index).1.shown? := by
  intro size page pages
  refine ⟨PageWindow.flatMap_slice items pageSize, ?_, ?_, ?_, ?_, ?_, ?_, ?_⟩
  · intro index first before
    obtain ⟨index, rfl⟩ := Nat.exists_eq_add_of_le' first
    exact PageWindow.length_slice_of_succ_lt before
  · intro filled
    obtain ⟨last, same⟩ := Nat.exists_eq_add_of_le' filled
    have before : last < pagesFor (max pageSize 1) items.length := by
      rw [← Nat.succ_le_iff]
      exact Nat.le_of_eq same.symm
    rw [same]
    exact PageWindow.length_slice_bounds before
  · exact congrArg (fun window => (window, window.slice items))
      (PageWindow.of_zero pageSize items.length)
  · intro index beyond
    exact congrArg (fun window => (window, window.slice items))
      (PageWindow.of_of_pagesFor_lt beyond)
  · rintro rfl index
    have consistent := PageWindow.consistent_of index pageSize 0
    have none : (PageWindow.of index pageSize 0).span.2 = 0 :=
      Nat.le_zero.mp consistent.span_ordered.2
    constructor
    · exact List.take_eq_nil_of_eq_nil List.drop_nil
    · change (PageWindow.of index pageSize 0).shown? = Option.none
      rw [PageWindow.shown?_eq, none]
      rfl
  · intro index first last
    obtain ⟨index, rfl⟩ := Nat.exists_eq_add_of_le' first
    exact placed_of_lt last
  · intro index
    exact pageOfBy_words index word fits

/-- Seven items on pages of three: two full pages and a rest. -/
theorem seven_items_shared_out :
    let items := ["a", "b", "c", "d", "e", "f", "g"]
    let page := fun index => pageOf items index 3
    (page 1).1.totalPages = 3 ∧ (page 1).2 ++ (page 2).2 ++ (page 3).2 = items ∧
      (page 2).2.length = 3 ∧ (page 3).2 = ["g"] ∧ page 9 = page 3 ∧
      (∃ next, (page 2).1.shown? = some (4, 6) ∧ (page 3).1.shown? = some (7, next)) ∧
      pageOfBy .words items 9 3 = .ok (page 3) := by
  intro items page
  have word : 3 < wordSize := by decide
  have fits : items.length < lengthLimit := by decide
  obtain ⟨whole, full, -, -, beyond, -, placed, inWords⟩ := pages_share_out_list items word fits
  have counted : (page 1).1.totalPages = 3 := by decide
  obtain ⟨first, last, span, shown, -, adjacent⟩ := placed 2 (by decide) (by decide)
  obtain ⟨next, further⟩ := adjacent (by decide)
  have second : (first, last) = (3, 6) := span.symm.trans (by decide)
  cases second
  have ninth : page 9 = page 3 := (beyond 9 (by decide)).trans (congrArg page (by decide))
  have joined : (List.range' 1 (page 1).1.totalPages).flatMap (fun index => (page index).2) =
      items := whole
  refine ⟨counted, ?_, full 2 (by decide) (by decide), by decide, ninth, ⟨next, shown, further⟩,
    ?_⟩
  · rw [counted] at joined
    calc
      (page 1).2 ++ (page 2).2 ++ (page 3).2 =
          (page 1).2 ++ ((page 2).2 ++ ((page 3).2 ++ [])) := by
        rw [List.append_nil, List.append_assoc]
      _ = items := joined
  · exact (inWords 9).1.trans (congrArg Except.ok ninth)

end AdaptiveView
