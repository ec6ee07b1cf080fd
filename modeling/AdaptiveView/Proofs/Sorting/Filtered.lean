import AdaptiveView.Proofs.Screen.Values
import AdaptiveView.Proofs.Sorting.Records

/-!
# Filtering sorted records

A filter only leaves records out, and what it leaves of a stably sorted list is stably sorted.  There is
one way to sort, so it does not matter which of the two is done first, and a further filter takes rows
out of the list from where they stand.
-/

set_option autoImplicit false

namespace AdaptiveView

section
variable {R : Type} [Record R] [UniformKeys R]

theorem sortedBy_filter (sort : SortState (Record.SortField R)) (test : R → Bool)
    (records : List R) :
    sortedBy sort (records.filter test) = (sortedBy sort records).filter test := by
  have first := stablySorted_sortedBy sort (records.filter test)
  have last := (stablySorted_sortedBy sort records).filter test
  exact first.eq last

namespace Filters

theorem sortedBy_apply (sort : SortState (Record.SortField R)) (filters : Filters R)
    (records : List R) :
    sortedBy sort (filters.apply records) = filters.apply (sortedBy sort records) :=
  sortedBy_filter sort filters.accepts records

theorem Narrows.sortedBy_apply {narrower filters : Filters R} {test : R → Prop}
    [DecidablePred test] (narrows : narrower.Narrows filters test)
    (sort : SortState (Record.SortField R)) (records : List R) :
    sortedBy sort (narrower.apply records) =
      (sortedBy sort (filters.apply records)).filter fun record => test record := by
  rw [narrows.apply_eq, sortedBy_filter]

end Filters

end

/-- Rows keep their order when others are filtered out, before they are sorted or after. -/
structure FiltersInOrder (R : Type) [Record R] : Prop where
  commute : ∀ (sort : SortState (Record.SortField R)) (filters : Filters R) (records : List R),
    sortedBy sort (filters.apply records) = filters.apply (sortedBy sort records)
  status : ∀ (sort : SortState (Record.SortField R)) (filters : Filters R) (records : List R)
    (value : Record.Status R), filters.status = .all →
      sortedBy sort (Filters.apply { filters with status := .only value } records) =
        (sortedBy sort (filters.apply records)).filter (Record.status · = value)
  category : ∀ (sort : SortState (Record.SortField R)) (filters : Filters R) (records : List R)
    (value : Record.Category R), filters.category = .all →
      sortedBy sort (Filters.apply { filters with category := .only value } records) =
        (sortedBy sort (filters.apply records)).filter (Record.category · = value)
  secondary : ∀ (sort : SortState (Record.SortField R)) (filters : Filters R) (records : List R)
    (value : Record.Secondary R), filters.secondary = .all →
      sortedBy sort (Filters.apply { filters with secondary := .only value } records) =
        (sortedBy sort (filters.apply records)).filter (Record.secondary · = value)

theorem filtersInOrder (R : Type) [Record R] [UniformKeys R] : FiltersInOrder R where
  commute := Filters.sortedBy_apply
  status sort _ records value unfiltered :=
    (Filters.narrows_status unfiltered value).sortedBy_apply sort records
  category sort _ records value unfiltered :=
    (Filters.narrows_category unfiltered value).sortedBy_apply sort records
  secondary sort _ records value unfiltered :=
    (Filters.narrows_secondary unfiltered value).sortedBy_apply sort records

/-- Accounts and messages may be sorted before they are filtered or afterwards, and a further filter
leaves the rows it keeps in their order. -/
theorem filtering_keeps_sort_order : FiltersInOrder Account ∧ FiltersInOrder Email :=
  ⟨filtersInOrder Account, filtersInOrder Email⟩

end AdaptiveView
