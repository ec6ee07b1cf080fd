import AdaptiveView.Proofs.Grouping.Keys
import AdaptiveView.Proofs.Record.Keys
import AdaptiveView.Proofs.Screen.Layouts
import AdaptiveView.Proofs.Selection.Members

/-!
# What a value of a classification means

Records with one value can be picked, filtered and looked up in the group of its key.  Picking and
filtering compare values, grouping compares keys, and filtering works along with the other filters; all
find the same records, because no two values have the same key.
-/

set_option autoImplicit false

namespace AdaptiveView

open AdaptiveView.Calendar

section
variable {R : Type} [Record R] {α : Type}

/-- The rows of the group with this key; none without such a group. -/
def PlanBody.rowsUnder (key : String) : PlanBody R α → List (Row R)
  | .grouped _ groups =>
      ((groups.find? fun group => group.key = key).map GroupSection.rows).getD []
  | _ => []

/-! ## One more filter -/

theorem FieldFilter.accepts_all {T : Type} [DecidableEq T] (value : T) :
    FieldFilter.all.accepts value = true :=
  rfl

theorem FieldFilter.accepts_only_iff {T : Type} [DecidableEq T] {wanted value : T} :
    (FieldFilter.only wanted).accepts value = true ↔ value = wanted := by
  rw [accepts, beq_iff_eq]
  exact eq_comm

namespace Filters

theorem accepts_iff {filters : Filters R} {record : R} :
    filters.accepts record = true ↔
      finds filters.query record = true ∧
        filters.status.accepts (Record.status record) = true ∧
          filters.category.accepts (Record.category record) = true ∧
            filters.secondary.accepts (Record.secondary record) = true := by
  simp only [accepts, Bool.and_eq_true, and_assoc]

/-- The narrower filters accept what the others accept and the test holds for. -/
def Narrows (narrower filters : Filters R) (test : R → Prop) : Prop :=
  ∀ record, narrower.accepts record = true ↔ test record ∧ filters.accepts record = true

theorem narrows_of_only {T : Type} [DecidableEq T] {narrower filters : Filters R} {field : R → T}
    {value : T}
    (only : ∀ record, narrower.accepts record = true ↔
      (FieldFilter.only value).accepts (field record) = true ∧ filters.accepts record = true) :
    narrower.Narrows filters (field · = value) := by
  intro record
  rw [only, FieldFilter.accepts_only_iff]

theorem narrows_status {filters : Filters R} (unfiltered : filters.status = .all)
    (value : Record.Status R) :
    Narrows { filters with status := .only value } filters (Record.status · = value) := by
  apply narrows_of_only
  intro record
  simp only [accepts_iff, query, unfiltered, FieldFilter.accepts_all, true_and, and_assoc,
    and_left_comm, and_comm]

theorem narrows_category {filters : Filters R} (unfiltered : filters.category = .all)
    (value : Record.Category R) :
    Narrows { filters with category := .only value } filters (Record.category · = value) := by
  apply narrows_of_only
  intro record
  simp only [accepts_iff, query, unfiltered, FieldFilter.accepts_all, true_and, and_assoc,
    and_comm]

theorem narrows_secondary {filters : Filters R} (unfiltered : filters.secondary = .all)
    (value : Record.Secondary R) :
    Narrows { filters with secondary := .only value } filters
      (Record.secondary · = value) := by
  apply narrows_of_only
  intro record
  simp only [accepts_iff, query, unfiltered, FieldFilter.accepts_all, true_and, and_assoc,
    and_left_comm, and_comm]

theorem Narrows.apply_eq {narrower filters : Filters R} {test : R → Prop} [DecidablePred test]
    (narrows : narrower.Narrows filters test) (records : List R) :
    narrower.apply records = (filters.apply records).filter fun record => test record := by
  rw [apply, apply, List.filter_filter]
  apply List.filter_congr
  intro record _
  rw [Bool.eq_iff_iff, narrows record, Bool.and_eq_true, decide_eq_true_iff]

end Filters

end

namespace Screen

variable {R : Type} [Record R] {α : Type} [Coordinate α] {σ : Type} [PreferenceStore σ]

/-- What is selected when the selection is cleared and this message follows. -/
abbrev pickedBy (screen : Screen R α) (message : Message R α) (store : σ) :
    List (Record.Id R) :=
  (screen.updateAll store [.clearSelection, message]).screen.selection.ids

/-- What passes the filters after this message. -/
abbrev narrowedBy (screen : Screen R α) (message : Message R α) (store : σ) : List R :=
  (screen.update message store).screen.matching

/-- The records to be seen in the group with this key when the screen is grouped like this. -/
def groupOf (screen : Screen R α) (groupBy : GroupBy) (key : String) (store : σ)
    (now : Instant) : List R :=
  let grouped := screen.updateAll store [.selectViewMode .grouped, .groupBy groupBy]
  ((grouped.screen.plan now).body.rowsUnder key).map Row.record

omit [PreferenceStore σ] in
theorem Fitted.records_rowsUnder {screen : Screen R α} (fitted : screen.Fitted)
    (grouped : screen.viewMode.value = .grouped) (key : String) (now : Instant) :
    (((screen.plan now).body.rowsUnder key).map Row.record).Perm
      (screen.matching.filter fun record =>
        (GroupName.of screen.groupBy now record).key = key) := by
  by_cases empty : screen.matching = []
  · rw [body_of_empty empty, empty]
    exact .refl _
  · have rows : ((screen.plan now).body.rowsUnder key).map Row.record =
        membersUnder key (groupRecords screen.groupBy now screen.matching) := by
      rw [body_of_nonempty fitted empty, grouped]
      dsimp only [PlanBody.rowsUnder]
      have found : ((groupRecords screen.groupBy now screen.matching).map screen.groupPlan).find?
            (fun group => group.key = key) =
          ((groupRecords screen.groupBy now screen.matching).find? fun bucket =>
            bucket.key = key).map screen.groupPlan := by
        rw [List.find?_map]
        rfl
      rw [found, membersUnder]
      cases (groupRecords screen.groupBy now screen.matching).find? fun bucket =>
          bucket.key = key with
      | none => rfl
      | some bucket => exact records_rows screen bucket.members
    rw [rows]
    exact membersUnder_groupRecords key screen.groupBy now screen.matching

omit [Coordinate α] in
theorem picked_of_narrows (screen : Screen R α) {narrower : Filters R} {test : R → Prop}
    [DecidablePred test] (narrows : narrower.Narrows screen.filters test) :
    (selectWhere { screen with selection := .empty } fun record => test record).selection.ids =
      ((narrower.apply screen.collection).map Record.id).eraseDups := by
  rw [narrows.apply_eq]
  exact Selection.ids_insertAll_empty _

theorem groupOf_perm {screen : Screen R α} (reached : screen.Reached) {narrower : Filters R}
    {test : R → Prop} [DecidablePred test] (narrows : narrower.Narrows screen.filters test)
    {groupBy : GroupBy} {key : String} {now : Instant}
    (told : ∀ record, (GroupName.of groupBy now record).key = key ↔ test record) (store : σ) :
    (screen.groupOf groupBy key store now).Perm (narrower.apply screen.collection) := by
  let grouped := (screen.updateAll store [.selectViewMode .grouped, .groupBy groupBy]).screen
  have fitted : grouped.Fitted := (reached.updateAll store _).fitted
  have rows := fitted.records_rowsUnder rfl key now
  have same : (grouped.matching.filter fun record =>
      (GroupName.of grouped.groupBy now record).key = key) =
        screen.matching.filter fun record => test record := by
    apply List.filter_congr
    intro record _
    exact decide_eq_decide.mpr (told record)
  rw [same] at rows
  rw [narrows.apply_eq]
  exact rows

/-- Where nothing is filtered by a classification, picking by a value, filtering by it and looking up
the group of its key find the same records. -/
theorem value_means_the_same [DistinctKeys R] {screen : Screen R α} (reached : screen.Reached)
    (store : σ) (now : Instant) :
    (screen.filters.status = .all → ∀ value : Record.Status R,
      let narrowed := screen.narrowedBy (.statusFilter (.only value)) store
      screen.pickedBy (.selectByStatus value) store = (narrowed.map Record.id).eraseDups ∧
        (screen.groupOf .status (Classifier.key value) store now).Perm narrowed) ∧
      (screen.filters.category = .all → ∀ value : Record.Category R,
        let narrowed := screen.narrowedBy (.categoryFilter (.only value)) store
        screen.pickedBy (.selectByCategory value) store =
            (narrowed.map Record.id).eraseDups ∧
          (screen.groupOf .category (Classifier.key value) store now).Perm narrowed) ∧
      (screen.filters.secondary = .all → ∀ value : Record.Secondary R,
        (screen.groupOf .secondary (Classifier.key value) store now).Perm
          (screen.narrowedBy (.secondaryFilter (.only value)) store)) := by
  refine ⟨?_, ?_, ?_⟩
  · intro unfiltered value narrowed
    have narrows := Filters.narrows_status unfiltered value
    refine ⟨screen.picked_of_narrows narrows, ?_⟩
    apply groupOf_perm reached narrows
    intro record
    exact DistinctKeys.status.eq_iff
  · intro unfiltered value narrowed
    have narrows := Filters.narrows_category unfiltered value
    refine ⟨screen.picked_of_narrows narrows, ?_⟩
    apply groupOf_perm reached narrows
    intro record
    exact DistinctKeys.category.eq_iff
  · intro unfiltered value
    apply groupOf_perm reached (Filters.narrows_secondary unfiltered value)
    intro record
    exact DistinctKeys.secondary.eq_iff

/-- An account stands twice in what the search leaves. -/
def searchedList : Screen Account Float :=
  (updateAll (ofListing Account .standard MemoryStore.new).1 MemoryStore.new
    [.collectionUpdated
        [accountWith "a" .active, accountWith "b" .error, accountWith "a" .active],
      .searchChanged "A@", .toggleSelected "b" true]).screen

theorem active_means_the_same_in_searchedList :
    let narrowed := searchedList.narrowedBy (.statusFilter (.only .active)) MemoryStore.new
    searchedList.Reached ∧ searchedList.filters.status = .all ∧
      narrowed.map Account.uid = ["a", "a"] ∧
      searchedList.pickedBy (.selectByStatus .active) MemoryStore.new = ["a"] ∧
      (searchedList.groupOf .status "active" MemoryStore.new .earliest).Perm narrowed := by
  intro narrowed
  have reached : searchedList.Reached :=
    (Reached.opened _ _ _ MemoryStore.new).updateAll _ _
  have found : narrowed.map Account.uid = ["a", "a"] := by decide +kernel
  obtain ⟨status, -⟩ := value_means_the_same reached MemoryStore.new .earliest
  obtain ⟨picked, grouped⟩ := status rfl .active
  refine ⟨reached, rfl, found, ?_, grouped⟩
  rw [picked]
  exact congrArg List.eraseDups found

end Screen

end AdaptiveView
