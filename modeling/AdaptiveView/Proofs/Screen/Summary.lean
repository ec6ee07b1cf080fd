import AdaptiveView.Proofs.Screen.Measured
import AdaptiveView.Proofs.Screen.Posted
import AdaptiveView.Proofs.Selection.Members

/-!
# What the summary says of the selection

A plan speaks of the selection three times: it counts what is selected, it says whether all or some of
what passes the filters is, and it marks the rows.  The three agree.

The count is over identifiers and the statistics are over records, so these two agree only where the
collection holds every selected identifier, and holds it once.  Identifiers can be picked that the
collection does not hold; as long as this does not happen, what is selected is in the collection,
whatever is done to either.
-/

set_option autoImplicit false

namespace AdaptiveView

open AdaptiveView.Calendar

section
variable {R : Type} [Record R] {α : Type}

/-- The summary says whether all of these rows are marked, and whether some are and some are not. -/
structure SelectionSummary.Tells (summary : SelectionSummary) (rows : List (Row R)) : Prop where
  all : summary.allVisible = true ↔ ∀ row ∈ rows, row.selected = true
  partly : summary.partiallyVisible = true ↔
    (∃ row ∈ rows, row.selected = true) ∧ ∃ row ∈ rows, row.selected = false

/-- Where all that passes the filters is drawn, the summary tells how it is marked. -/
def Plan.SummaryAgrees (plan : Plan R α) : Prop :=
  match plan.body with
  | .empty _ =>
      plan.selection.allVisible = false ∧ plan.selection.partiallyVisible = false
  | .flat rows => plan.selection.Tells rows
  | .grouped _ groups => plan.selection.Tells (groups.flatMap GroupSection.rows)
  | .virtualized _ _ | .paginated _ _ _ => True

end

namespace Screen

variable {R : Type} [Record R] {α : Type}

/-! ## Marks -/

theorem tells_rows (screen : Screen R α) {records shown : List R} (shared : shown.Perm records)
    (nonempty : records ≠ []) :
    (screen.selectionSummary records).Tells (screen.rows shown) := by
  have marked : ∀ record, (screen.row record).selected = true ↔
      Record.id record ∈ screen.selection.ids := fun record => (screen.tells_row record).selected
  have unmarked : ∀ record, (screen.row record).selected = false ↔
      Record.id record ∉ screen.selection.ids := by
    intro record
    rw [← marked, Bool.not_eq_true]
  constructor
  case all =>
    simp only [selectionSummary, Selection.holdsAll_iff, rows, List.forall_mem_map, marked,
      shared.mem_iff]
    constructor
    · exact And.right
    · intro every
      refine ⟨?_, every⟩
      intro none
      exact nonempty (List.map_eq_nil_iff.mp none)
  case partly =>
    simp only [selectionSummary, Selection.holdsSome_iff, rows, List.mem_map,
      exists_exists_and_eq_and, marked, unmarked, shared.mem_iff]

variable [Coordinate α]

theorem Fitted.summaryAgrees {screen : Screen R α} (fitted : screen.Fitted) (now : Instant) :
    (screen.plan now).SummaryAgrees := by
  by_cases empty : screen.matching = []
  · rw [Plan.SummaryAgrees, body_of_empty empty now]
    simp only [plan, ordered_of_empty empty]
    exact ⟨rfl, rfl⟩
  · rw [Plan.SummaryAgrees, body_of_nonempty fitted empty now]
    have shown : screen.ordered ≠ [] := List.isEmpty_eq_false_iff.mp (isEmpty_ordered empty)
    cases mode : screen.viewMode.value with
    | flat =>
        have sorted : screen.sorted = screen.ordered :=
          (ordered_of_ne_grouped (by simp [mode])).symm
        dsimp only
        rw [sorted]
        exact screen.tells_rows (.refl _) shown
    | grouped =>
        dsimp only
        rw [rows_groupPlan]
        apply screen.tells_rows _ shown
        rw [ordered_of_grouped mode]
        exact allMembers_groupRecords screen.groupBy now screen.matching
    | virtualized => trivial
    | paginatedTable => trivial

/-! ## What is selected is there -/

/-- What is selected is in the collection. -/
def SelectsPresent (screen : Screen R α) : Prop :=
  ∀ id ∈ screen.selection.ids, id ∈ screen.collection.map Record.id

omit [Coordinate α] in
theorem mem_collection_of_mem_matchingIds {screen : Screen R α} {id : Record.Id R}
    (matched : id ∈ screen.matchingIds) : id ∈ screen.collection.map Record.id := by
  obtain ⟨record, among, rfl⟩ := List.mem_map.mp matched
  exact List.mem_map_of_mem (List.mem_filter.mp among).1

omit [Coordinate α] in
theorem SelectsPresent.of_same {screen other : Screen R α} (present : screen.SelectsPresent)
    (same : other.SameMatter screen) : other.SelectsPresent := by
  intro id inside
  rw [same.selection] at inside
  rw [same.collection]
  exact present id inside

omit [Coordinate α] in
/-- Whatever passes the filters may be selected besides. -/
theorem SelectsPresent.grow {screen : Screen R α} (present : screen.SelectsPresent)
    {selection : Selection (Record.Id R)}
    (known : ∀ id ∈ selection.ids, id ∈ screen.selection.ids ∨ id ∈ screen.matchingIds) :
    { screen with selection }.SelectsPresent := by
  intro id inside
  rcases known id inside with before | matched
  · exact present id before
  · exact mem_collection_of_mem_matchingIds matched

omit [Coordinate α] in
theorem SelectsPresent.selectWhere {screen : Screen R α} (present : screen.SelectsPresent)
    (test : R → Bool) : (screen.selectWhere test).SelectsPresent := by
  apply present.grow
  intro id inside
  rcases Selection.mem_insertAll.mp inside with before | added
  · exact .inl before
  · obtain ⟨record, among, rfl⟩ := List.mem_map.mp added
    exact .inr (List.mem_map_of_mem (List.mem_filter.mp among).1)

section
variable {σ : Type} [PreferenceStore σ]

theorem SelectsPresent.update {screen : Screen R α} (present : screen.SelectsPresent)
    {message : Message R α}
    (picks : ∀ id, message = .toggleSelected id true → id ∈ screen.collection.map Record.id)
    (store : σ) : (screen.update message store).screen.SelectsPresent := by
  cases presents : message.presents with
  | true => exact present.of_same (update_of_presents screen presents store).1
  | false =>
      cases message with
      | collectionUpdated records =>
          intro id inside
          exact (Selection.mem_keepOnly.mp inside).2
      | searchChanged text =>
          simp only [Screen.update]
          split <;> exact present
      | toggleSelected id selected =>
          intro other inside
          rw [Screen.update, quiet, Selection.mem_set] at inside
          by_cases same : other = id
          · rw [if_pos same] at inside
            exact picks other (by rw [same, inside])
          · rw [if_neg same] at inside
            exact present other inside
      | selectAllVisible =>
          apply present.grow
          intro id inside
          exact Selection.mem_insertAll.mp inside
      | invertVisible =>
          apply present.grow
          intro id inside
          exact Selection.mem_of_mem_invert inside
      | clearSelection =>
          intro id inside
          cases inside
      | selectByStatus status => exact present.selectWhere _
      | selectByCategory category => exact present.selectWhere _
      | busyChanged _ | statusFilter _ | categoryFilter _ | secondaryFilter _ | resetFilters
      | ask _ | syncSelected | deleteSelected => exact present
      | _ => cases presents

/-- Whatever is picked by itself is in the collection by then. -/
def PicksPresent (screen : Screen R α) : List (Message R α × σ) → Prop
  | [] => True
  | (message, store) :: rest =>
      (∀ id, message = .toggleSelected id true → id ∈ screen.collection.map Record.id) ∧
        (screen.update message store).screen.PicksPresent rest

theorem SelectsPresent.through {screen : Screen R α} (present : screen.SelectsPresent)
    {run passed : List (Message R α × σ)} (picks : screen.PicksPresent run)
    (within : passed <+: run) : (screen.through passed).SelectsPresent := by
  induction run generalizing screen passed with
  | nil =>
      rw [List.prefix_nil] at within
      subst within
      exact present
  | cons entry rest later =>
      obtain ⟨known, picks⟩ := picks
      rcases List.prefix_cons_iff.mp within with rfl | ⟨passed, rfl, further⟩
      · exact present
      · exact later (present.update known entry.2) picks further

end

omit [Coordinate α] in
theorem SelectsPresent.size_eq_total {screen : Screen R α} (present : screen.SelectsPresent)
    (distinct : (screen.collection.map Record.id).Nodup) :
    screen.selection.size = screen.selectionStats.total := by
  have chosen : ((screen.selection.records screen.collection).map Record.id).Nodup :=
    distinct.sublist (List.filter_sublist.map Record.id)
  have same : screen.selection.ids.Perm
      ((screen.selection.records screen.collection).map Record.id) := by
    rw [List.perm_ext_iff_of_nodup screen.selection.nodup chosen]
    intro id
    constructor
    · intro inside
      obtain ⟨record, among, rfl⟩ := List.mem_map.mp (present id inside)
      apply List.mem_map_of_mem
      exact List.mem_filter.mpr ⟨among, decide_eq_true inside⟩
    · intro among
      obtain ⟨record, selected, rfl⟩ := List.mem_map.mp among
      exact of_decide_eq_true (List.mem_filter.mp selected).2
  have lengths := same.length_eq
  rwa [List.length_map] at lengths

section
variable {σ : Type} [PreferenceStore σ]

/-- The count of what is selected is that of the selected records as long as nothing is picked that is
not there and no identifier stands twice, and the summary always agrees with the marks of the rows. -/
theorem summary_agrees_with_rows (name : String) (sort : SortState (Record.SortField R))
    (config : Settings α) (store : σ) (run : List (Message R α × σ)) :
    let opened : Screen R α := (new name sort config store).1
    (opened.PicksPresent run → ∀ passed, passed <+: run →
      let later := opened.through passed
      later.SelectsPresent ∧
        ((later.collection.map Record.id).Nodup → ∀ now,
          let summary := (later.plan now).selection
          summary.selected = summary.stats.total)) ∧
      ∀ screen : Screen R α, screen.Reached → ∀ now, (screen.plan now).SummaryAgrees := by
  intro opened
  constructor
  · intro picks passed within later
    have none : opened.SelectsPresent := by
      intro id inside
      cases inside
    have present : later.SelectsPresent := none.through picks within
    refine ⟨present, ?_⟩
    intro distinct now
    exact present.size_eq_total distinct
  · intro screen reached now
    exact reached.fitted.summaryAgrees now

/-- Of three accounts one is picked and all are turned round, then one of the two that are left is
filtered out, and the next collection has lost the other. -/
def turnedSelection : List (Message Account Rat × MemoryStore) :=
  [.collectionUpdated [accountWith "a" .active, accountWith "b" .error, accountWith "c" .active],
    .toggleSelected "b" true, .invertVisible, .statusFilter (.only .error), .selectAllVisible,
    .collectionUpdated [accountWith "b" .error, accountWith "c" .active]].map
      fun message => (message, MemoryStore.new)

theorem summary_agrees_in_turnedSelection :
    let opened : Screen Account Rat :=
      (new "accounts" (.ascending AccountSortField.email) .standard MemoryStore.new).1
    let later := opened.through turnedSelection
    opened.PicksPresent turnedSelection ∧ later.selection.ids = ["c", "b"] ∧
      later.SelectsPresent ∧ (later.plan .earliest).selection.selected =
        (later.plan .earliest).selection.stats.total ∧
      filteredTable.Reached ∧ (filteredTable.plan .earliest).SummaryAgrees := by
  intro opened later
  have picks : opened.PicksPresent turnedSelection := by
    refine ⟨?_, ?_, ?_, ?_, ?_, ?_, trivial⟩
    all_goals
      intro id same
      cases same
    decide +kernel
  have agrees := summary_agrees_with_rows (R := Account) (α := Rat) "accounts"
    (.ascending AccountSortField.email) .standard MemoryStore.new turnedSelection
  have agreesToo := (summary_agrees_with_rows (R := Account) (α := Float) "accounts"
    (.ascending AccountSortField.email) .standard MemoryStore.new []).2
  obtain ⟨present, counted⟩ := agrees.1 picks turnedSelection (List.prefix_refl _)
  have distinct : (later.collection.map Record.id).Nodup := by decide +kernel
  exact ⟨picks, by decide +kernel, present, counted distinct .earliest, reached_filteredTable,
    agreesToo filteredTable reached_filteredTable .earliest⟩

end

end Screen

end AdaptiveView
