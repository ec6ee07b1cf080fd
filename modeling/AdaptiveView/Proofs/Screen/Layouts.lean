import AdaptiveView.Proofs.Grouping.Members
import AdaptiveView.Proofs.Page.Partition
import AdaptiveView.Proofs.Screen.Aligned

/-!
# Every layout shows the same records

Whatever layout is picked, the records to be seen are those that pass the filters, in the order of the
sort state: all of them in one list, page after page, as the part of the list in the viewport, or
shared out among groups, which have an order of their own.  A record that stands twice in the
collection is seen twice.
-/

set_option autoImplicit false

namespace AdaptiveView

open AdaptiveView.Calendar

section
variable {R : Type} [Record R] {α : Type}

/-- The rows to draw, group by group in a grouped layout. -/
def PlanBody.rows : PlanBody R α → List (Row R)
  | .empty _ => []
  | .flat rows => rows
  | .virtualized _ rows => rows
  | .grouped _ groups => groups.flatMap GroupSection.rows
  | .paginated _ _ rows => rows

/-- A row says of its record what the screen holds of it. -/
structure Row.Tells (row : Row R) (screen : Screen R α) : Prop where
  selected : row.selected = true ↔ Record.id row.record ∈ screen.selection.ids
  busy : row.busy = true ↔ Record.id row.record ∈ screen.busy
  density : row.density = screen.density.value

end

namespace Screen

variable {R : Type} [Record R] {α : Type}

/-! ## Rows -/

theorem tells_row (screen : Screen R α) (record : R) : (screen.row record).Tells screen :=
  ⟨decide_eq_true_iff, decide_eq_true_iff, rfl⟩

theorem records_rows (screen : Screen R α) (records : List R) :
    (screen.rows records).map Row.record = records := by
  unfold rows
  rw [List.map_map]
  exact List.map_id records

theorem rows_groupPlan (screen : Screen R α) (buckets : List (Bucket R)) :
    (buckets.map screen.groupPlan).flatMap GroupSection.rows =
      screen.rows (allMembers buckets) := by
  unfold rows allMembers
  rw [List.flatMap_map, List.map_flatMap]
  rfl

variable [Coordinate α]

/-- All rows of a plan are rows of the screen for some of its records. -/
theorem rows_planBody (screen : Screen R α) (now : Instant) (records : List R) :
    ∃ shown, (screen.planBody now records).rows = screen.rows shown := by
  unfold planBody
  split
  · exact ⟨[], rfl⟩
  · split
    · exact ⟨_, rfl⟩
    · exact ⟨_, rfl⟩
    · exact ⟨_, rows_groupPlan screen _⟩
    · exact ⟨_, rfl⟩

theorem tells_of_mem_rows {screen : Screen R α} {now : Instant} {row : Row R}
    (drawn : row ∈ (screen.plan now).body.rows) : row.Tells screen := by
  obtain ⟨shown, rows⟩ := rows_planBody screen now screen.ordered
  have member : row ∈ screen.rows shown := rows ▸ drawn
  obtain ⟨record, -, rfl⟩ := List.mem_map.mp member
  exact tells_row screen record

/-! ## Bodies -/

/-- The records that pass the filters, in the order of the sort state. -/
def sorted (screen : Screen R α) : List R :=
  sortedBy screen.sort screen.matching

omit [Coordinate α] in
theorem sorted_perm (screen : Screen R α) : screen.sorted.Perm screen.matching :=
  sortedBy_perm screen.sort screen.matching

section
variable {screen : Screen R α}

omit [Coordinate α] in
theorem ordered_of_grouped (grouped : screen.viewMode.value = .grouped) :
    screen.ordered = screen.matching :=
  if_pos grouped

omit [Coordinate α] in
theorem ordered_of_ne_grouped (ungrouped : screen.viewMode.value ≠ .grouped) :
    screen.ordered = screen.sorted :=
  if_neg ungrouped

omit [Coordinate α] in
theorem isEmpty_ordered (nonempty : screen.matching ≠ []) : screen.ordered.isEmpty = false := by
  have length : screen.ordered.length ≠ 0 := by
    rw [length_ordered]
    exact fun none => nonempty (List.eq_nil_of_length_eq_zero none)
  rw [List.isEmpty_eq_false_iff]
  exact fun none => length (List.length_eq_zero_iff.mpr none)

omit [Coordinate α] in
theorem ordered_of_empty (empty : screen.matching = []) : screen.ordered = [] := by
  apply List.eq_nil_of_length_eq_zero
  rw [length_ordered, empty]
  rfl

theorem body_of_empty (empty : screen.matching = []) (now : Instant) :
    (screen.plan now).body = .empty screen.emptyReason := by
  simp only [plan, planBody, ordered_of_empty empty, List.isEmpty_nil, if_true]

/-- What there is to see of a screen with records to show, layout by layout. -/
theorem body_of_nonempty (fitted : screen.Fitted) (nonempty : screen.matching ≠ [])
    (now : Instant) :
    (screen.plan now).body =
      match screen.viewMode.value with
      | .flat => .flat (screen.rows screen.sorted)
      | .virtualized =>
          let range := screen.viewport.visible
          .virtualized range
            (screen.rows ((screen.sorted.drop range.first).take (range.last - range.first)))
      | .grouped =>
          .grouped screen.groupBy
            ((groupRecords screen.groupBy now screen.matching).map screen.groupPlan)
      | .paginatedTable =>
          let window := screen.pager.window
          .paginated window (window.buttons buttonCount)
            (screen.rows (window.slice screen.sorted)) := by
  have filled : screen.ordered.isEmpty = false := isEmpty_ordered nonempty
  have whole := VisibleRange.truncate_of_le fitted.last_visible_le
  simp only [plan, planBody, filled, Bool.false_eq_true, if_false, whole, fitted.window_ordered]
  cases mode : screen.viewMode.value with
  | grouped => rw [ordered_of_grouped mode]
  | flat => rw [ordered_of_ne_grouped (by simp [mode])]
  | virtualized => rw [ordered_of_ne_grouped (by simp [mode])]
  | paginatedTable => rw [ordered_of_ne_grouped (by simp [mode])]

end

/-! ## The part in the viewport -/

theorem Fitted.last_le_sorted {screen : Screen R α} (fitted : screen.Fitted) :
    screen.viewport.visible.last ≤ screen.sorted.length := by
  rw [screen.sorted_perm.length_eq, ← length_ordered]
  exact fitted.last_visible_le

theorem Fitted.length_offsets {screen : Screen R α} (fitted : screen.Fitted) :
    let range := screen.viewport.visible
    range.offsets.length =
      (screen.rows ((screen.sorted.drop range.first).take (range.last - range.first))).length := by
  intro range
  have last : range.last ≤ screen.sorted.length := fitted.last_le_sorted
  have offsets : range.offsets.length = range.last - range.first :=
    VisibleRange.length_offsets_of _ _ _ _
  simp only [rows, List.length_map, List.length_take, List.length_drop]
  omega

/-! ## Page after page -/

section
variable {σ : Type} [PreferenceStore σ]

/-- The plans to be seen when going to these pages one after the other.  The clock tells the time at
which each of them is looked at. -/
def plansOf (screen : Screen R α) (store : σ) (clock : Nat → Instant) :
    List Nat → List (Plan R α)
  | [] => []
  | pageIndex :: rest =>
      let turn := screen.update (.setPage pageIndex) store
      turn.screen.plan (clock pageIndex) :: turn.screen.plansOf turn.store clock rest

/-- The plan of a page: its window is that of the page, and its rows are the records there. -/
theorem body_of_page {screen : Screen R α} (fitted : screen.Fitted)
    (nonempty : screen.matching ≠ []) (table : screen.viewMode.value = .paginatedTable)
    (pageIndex : Nat) (store : σ) (now : Instant) :
    let window := PageWindow.of pageIndex screen.pager.pageSize screen.sorted.length
    ∃ rows, ((screen.update (.setPage pageIndex) store).screen.plan now).body =
        .paginated window (window.buttons buttonCount) rows ∧
      rows.map Row.record = window.slice screen.sorted := by
  intro page
  have turned := fitted.update (.setPage pageIndex) store
  have stillTable :
      (screen.update (.setPage pageIndex) store).screen.viewMode.value = .paginatedTable :=
    table
  have window : (screen.update (.setPage pageIndex) store).screen.pager.window = page := by
    simp only [page, screen.sorted_perm.length_eq, ← fitted.paged]
    exact Pager.window_goTo screen.pager pageIndex
  refine ⟨(screen.update (.setPage pageIndex) store).screen.rows (page.slice screen.sorted), ?_,
    records_rows _ _⟩
  rw [body_of_nonempty turned nonempty now, stillTable]
  dsimp only
  rw [window]
  rfl

theorem records_of_page {screen : Screen R α} (fitted : screen.Fitted)
    (nonempty : screen.matching ≠ []) (table : screen.viewMode.value = .paginatedTable)
    (pageIndex : Nat) (store : σ) (now : Instant) :
    ((screen.update (.setPage pageIndex) store).screen.plan now).body.rows.map Row.record =
      (PageWindow.of pageIndex screen.pager.pageSize screen.sorted.length).slice
        screen.sorted := by
  obtain ⟨rows, body, records⟩ := body_of_page fitted nonempty table pageIndex store now
  rw [body]
  exact records

theorem records_plansOf {screen : Screen R α} (fitted : screen.Fitted)
    (nonempty : screen.matching ≠ []) (table : screen.viewMode.value = .paginatedTable)
    (store : σ) (clock : Nat → Instant) (pages : List Nat) :
    (screen.plansOf store clock pages).flatMap (fun plan => plan.body.rows.map Row.record) =
      pages.flatMap fun pageIndex =>
        (PageWindow.of pageIndex screen.pager.pageSize screen.sorted.length).slice
          screen.sorted := by
  induction pages generalizing screen store with
  | nil => rfl
  | cons pageIndex rest later =>
      have turned := fitted.update (.setPage pageIndex) store
      rw [plansOf, List.flatMap_cons, List.flatMap_cons,
        records_of_page fitted nonempty table]
      congr 1
      exact later turned nonempty table _

/-- A screen that a machine can hold: the page size is a word, the collection a list in memory. -/
structure Representable (screen : Screen R α) : Prop where
  pageSize : screen.pager.pageSize < wordSize
  collection : screen.collection.length < lengthLimit

omit [Coordinate α] in
theorem Representable.sorted {screen : Screen R α} (representable : screen.Representable) :
    screen.sorted.length < lengthLimit := by
  rw [screen.sorted_perm.length_eq]
  exact Nat.lt_of_le_of_lt (List.length_filter_le _ _) representable.collection

/-- The page that is shown of these records can be worked out in words, with its row of buttons. -/
def InWords (records : List R) (plan : Plan R α) : Prop :=
  ∃ window buttons rows, plan.body = .paginated window buttons rows ∧
    window.sliceBy .words records = .ok (rows.map Row.record) ∧
    window.shownBy .words = .ok window.shown? ∧ window.buttonsBy .words buttonCount = .ok buttons

theorem inWords_of_page {screen : Screen R α} (fitted : screen.Fitted)
    (representable : screen.Representable) (nonempty : screen.matching ≠ [])
    (table : screen.viewMode.value = .paginatedTable) (pageIndex : Nat) (store : σ)
    (now : Instant) :
    InWords screen.sorted ((screen.update (.setPage pageIndex) store).screen.plan now) := by
  obtain ⟨rows, body, records⟩ := body_of_page fitted nonempty table pageIndex store now
  let window := PageWindow.of pageIndex screen.pager.pageSize screen.sorted.length
  have consistent : window.Consistent := PageWindow.consistent_of _ _ _
  have short : window.totalItems < lengthLimit := representable.sorted
  have word : window.totalItems < wordSize := Nat.lt_trans short (by decide)
  have size : window.pageSize < wordSize := Nat.max_lt.mpr ⟨representable.pageSize, by decide⟩
  have ends : window.EndIsWord := consistent.endIsWord size short
  have few : window.totalPages + 1 < wordSize := by
    have pages := consistent.totalPages_le
    unfold lengthLimit wordSize at *
    omega
  refine ⟨window, window.buttons buttonCount, rows, body, ?_, ?_, ?_⟩
  · rw [consistent.sliceBy_words word, if_pos ends, records]
  · rw [consistent.shownBy_words word, if_pos ends]
  · rw [consistent.buttonsBy_words word, if_neg (PageWindow.not_rowEndsAtLargest few buttonCount)]

theorem inWords_of_plansOf {screen : Screen R α} (fitted : screen.Fitted)
    (representable : screen.Representable) (nonempty : screen.matching ≠ [])
    (table : screen.viewMode.value = .paginatedTable) (store : σ) (clock : Nat → Instant)
    (pages : List Nat) :
    ∀ plan ∈ screen.plansOf store clock pages, InWords screen.sorted plan := by
  induction pages generalizing screen store with
  | nil => exact List.forall_mem_nil _
  | cons pageIndex rest later =>
      have turned := fitted.update (.setPage pageIndex) store
      rw [plansOf, List.forall_mem_cons]
      refine ⟨inWords_of_page fitted representable nonempty table pageIndex store _, ?_⟩
      exact later turned ⟨representable.pageSize, representable.collection⟩ nonempty table _

theorem records_of_all_pages {screen : Screen R α} (fitted : screen.Fitted)
    (nonempty : screen.matching ≠ [])
    (table : screen.viewMode.value = .paginatedTable) (store : σ) (clock : Nat → Instant) :
    (screen.plansOf store clock (List.range' 1 screen.pager.window.totalPages)).flatMap
        (fun plan => plan.body.rows.map Row.record) =
      screen.sorted := by
  have total : screen.pager.window.totalPages =
      pagesFor (max screen.pager.pageSize 1) screen.sorted.length := by
    rw [screen.sorted_perm.length_eq, ← fitted.paged]
    rfl
  rw [records_plansOf fitted nonempty table, total]
  exact PageWindow.flatMap_slice screen.sorted screen.pager.pageSize

/-! ## Whatever layout is picked -/

abbrev shownAs (screen : Screen R α) (mode : ViewMode) (store : σ) : Screen R α :=
  (screen.update (.selectViewMode mode) store).screen

/-- With records to show, each layout shows them in the order of the sort state, and each row says
what the screen holds of its record.  All pages can be worked out in words. -/
theorem layouts_show_sorted {screen : Screen R α} (reached : screen.Reached)
    (representable : screen.Representable) (nonempty : screen.matching ≠ []) (store : σ)
    (now : Instant) (clock : Nat → Instant) :
    (∃ rows, ((screen.shownAs .flat store).plan now).body = .flat rows ∧
        rows.map Row.record = screen.sorted) ∧
      (let table := screen.update (.selectViewMode .paginatedTable) store
        let pages := List.range' 1 table.screen.pager.window.totalPages
        let plans := table.screen.plansOf table.store clock pages
        plans.flatMap (fun plan => plan.body.rows.map Row.record) = screen.sorted ∧
          ∀ plan ∈ plans, InWords screen.sorted plan) ∧
      (∃ range rows,
        ((screen.shownAs .virtualized store).plan now).body = .virtualized range rows ∧
          range.first ≤ range.last ∧ range.last ≤ screen.sorted.length ∧
          rows.map Row.record =
            (screen.sorted.drop range.first).take (range.last - range.first) ∧
          range.offsets.length = rows.length) ∧
      (∃ groups,
        ((screen.shownAs .grouped store).plan now).body = .grouped screen.groupBy groups ∧
          ((groups.flatMap GroupSection.rows).map Row.record).Perm screen.sorted) ∧
      ∀ row ∈ (screen.plan now).body.rows, row.Tells screen := by
  have fitted : screen.Fitted := reached.fitted
  refine ⟨?_, ?_, ?_, ?_, ?_⟩
  · refine ⟨_, body_of_nonempty (fitted.update (.selectViewMode .flat) store) nonempty now, ?_⟩
    exact records_rows _ _
  · intro table pages plans
    have stillFitted := fitted.update (.selectViewMode .paginatedTable) store
    refine ⟨records_of_all_pages stillFitted nonempty rfl _ clock, ?_⟩
    exact inWords_of_plansOf stillFitted ⟨representable.pageSize, representable.collection⟩
      nonempty rfl _ clock pages
  · have stillFitted := fitted.update (.selectViewMode .virtualized) store
    refine ⟨_, _, body_of_nonempty stillFitted nonempty now, ?_, ?_, ?_, ?_⟩
    · exact VisibleRange.first_of_le_last _ _ _ _
    · exact fitted.last_le_sorted
    · exact records_rows _ _
    · exact stillFitted.length_offsets
  · have stillFitted := fitted.update (.selectViewMode .grouped) store
    refine ⟨_, body_of_nonempty stillFitted nonempty now, ?_⟩
    rw [rows_groupPlan, records_rows]
    have shared := allMembers_groupRecords screen.groupBy now screen.matching
    exact shared.trans screen.sorted_perm.symm
  · intro row drawn
    exact tells_of_mem_rows drawn

end

theorem layouts_show_sorted_in_filteredTable :
    filteredTable.matching.map Account.uid = ["a", "c"] ∧
      (∃ rows,
        ((filteredTable.shownAs .flat MemoryStore.new).plan .earliest).body = .flat rows ∧
          rows.map Row.record = filteredTable.sorted) ∧
      ∃ groups,
        ((filteredTable.shownAs .grouped MemoryStore.new).plan .earliest).body =
            .grouped .status groups ∧
          ((groups.flatMap GroupSection.rows).map Row.record).Perm filteredTable.sorted := by
  have representable : filteredTable.Representable := ⟨by decide, by decide⟩
  have shown : filteredTable.matching.map Account.uid = ["a", "c"] := by decide
  have nonempty : filteredTable.matching ≠ [] := by
    intro none
    rw [none] at shown
    cases shown
  obtain ⟨flat, -, -, grouped, -⟩ := layouts_show_sorted reached_filteredTable
    representable nonempty MemoryStore.new .earliest fun _ => .earliest
  exact ⟨shown, flat, grouped⟩

end Screen

end AdaptiveView
